import PredictiveParsing.Grammar.Resolution
import PredictiveParsing.Grammar.TerminalSet

/-!
FIRST sets: the tokens that what a state derives can begin with, and epsilon if
the state can derive nothing at all.
-/
namespace PredictiveParsing.Grammar

/-- The terminals that what the symbols derive can begin with, given the sets of
the states, and whether they can derive nothing. The walk goes past what can
vanish; a state without a set stops it. -/
def firstOfSequence (first : SetTable) : List Symbol → TerminalSet × Bool
  | [] => ([.epsilon], true)
  | .epsilon :: more => firstOfSequence first more
  | .token name :: _ => ([.token name], false)
  | .state name :: more =>
    match first.get? name with
    | none => ([], false)
    | some s =>
      if s.contains .epsilon then
        let (rest, nullable) := firstOfSequence first more
        (rest.addAll s.withoutEpsilon, nullable)
      else (s, false)

/-- Whether a rule with these symbols can begin with the token. -/
def startsWith (first : SetTable) (token : String) : List Symbol → Bool
  | [] => false
  | .epsilon :: more => startsWith first token more
  | .token name :: _ => name == token
  | .state name :: more =>
    match first.get? name with
    | none => false
    | some s =>
      if s.contains (.token token) then true
      else if s.contains .epsilon then startsWith first token more
      else false

/-- The number of symbols in all rules. -/
def symbolCount (g : Grammar) : Nat :=
  g.productions.foldr (fun p n => p.alternatives.foldr (fun a n => a.symbols.length + n) n) 0

/-- One pass over the rules. A production sees what those before it added. -/
def firstPass (g : Grammar) (first : SetTable) : SetTable :=
  g.productions.foldl
    (fun first p =>
      first.add p.lhs (p.alternatives.flatMap fun a => (firstOfSequence first a.symbols).1))
    first

/-- The table in which every state has the empty set. -/
def emptySets (g : Grammar) : SetTable :=
  g.productions.foldl (fun table p => table.add p.lhs []) []

/-- The FIRST sets with the number of passes it took to find them. Every member is
a token of some rule or epsilon, which bounds the passes. -/
def firstSaturation (g : Grammar) : SetTable × Nat :=
  SetTable.saturate g.firstPass (g.productions.length * (g.symbolCount + 1) + 1) g.emptySets

/-- The FIRST set of every state. -/
def firstSets (g : Grammar) : SetTable :=
  g.firstSaturation.1

end PredictiveParsing.Grammar
