import PredictiveParsing.Grammar.First

/-!
FOLLOW sets: the tokens that can come right behind a state, and the end of input
if the state can come last.
-/
namespace PredictiveParsing.Grammar

/-- Adds to the sets of the states in a rule of `lhs` what its symbols put behind
them; where all that comes behind can vanish, also what can follow `lhs`. -/
def followOfRule (first : SetTable) (lhs : String) : List Symbol → SetTable → SetTable
  | [], follow => follow
  | .state name :: more, follow =>
    let (begins, nullable) := firstOfSequence first more
    let inherited := if nullable then (follow.get? lhs).getD [] else []
    followOfRule first lhs more (follow.add name (begins.withoutEpsilon ++ inherited))
  | _ :: more, follow => followOfRule first lhs more follow

/-- One pass over the rules. A rule sees what those before it added. -/
def followPass (g : Grammar) (first : SetTable) (follow : SetTable) : SetTable :=
  g.productions.foldl
    (fun follow p =>
      p.alternatives.foldl (fun follow a => followOfRule first p.lhs a.symbols follow) follow)
    follow

/-- The FOLLOW sets for given FIRST sets, with the number of passes it took to find
them. Every member is a token of some rule, a member of a FIRST set or the end of
input, which bounds the passes. -/
def followSaturation (g : Grammar) (first : SetTable) : SetTable × Nat :=
  SetTable.saturate (g.followPass first)
    ((g.productions.length + g.symbolCount + 1) * (g.symbolCount + first.size + 1) + 1)
    (g.emptySets.add startName [.endOfInput])

/-- The FOLLOW set of every state, for given FIRST sets. -/
def followSets (g : Grammar) (first : SetTable) : SetTable :=
  (g.followSaturation first).1

end PredictiveParsing.Grammar
