import PredictiveParsing.Grammar.First

/-!
The predictive table: which rule of a state to expand for the token ahead, and
which one if the state is to derive nothing. Where several rules qualify the one
declared first is taken.
-/
namespace PredictiveParsing.Grammar

/-- The entries of a state: rule indices by token, and the index of the rule that
derives nothing. -/
structure TableRow where
  state : String
  rules : List (String × Nat)
  empty : Option Nat
deriving DecidableEq, Repr

/-- The rows of a table in the order of the productions. -/
abbrev PredictiveTable := List TableRow

namespace PredictiveTable

/-- The row of a state. -/
def row? (table : PredictiveTable) (state : String) : Option TableRow :=
  table.find? (·.state == state)

/-- The rule of the state for the token. -/
def rule? (table : PredictiveTable) (state token : String) : Option Nat :=
  (table.row? state).bind fun row => row.rules.lookup token

/-- The rule by which the state derives nothing. -/
def emptyRule? (table : PredictiveTable) (state : String) : Option Nat :=
  (table.row? state).bind (·.empty)

/-- The tokens that the state has a rule for, in order. -/
def expected (table : PredictiveTable) (state : String) : List String :=
  match table.row? state with
  | some row => (row.rules.map (·.1)).mergeSort
  | none => []

/-- The number of entries. -/
def size (table : PredictiveTable) : Nat :=
  table.foldr (fun row n => row.rules.length + (if row.empty.isSome then 1 else 0) + n) 0

end PredictiveTable

/-- The indices of the alternatives that can begin with the token, ascending. -/
def candidates (first : SetTable) (token : String) (p : Production) : List Nat :=
  (p.alternatives.zipIdx.filter fun (a, _) => startsWith first token a.symbols).map (·.2)

/-- The alternative by which a nullable state derives nothing: its epsilon rule,
or else the first one that can vanish. -/
def emptyAlternative? (first : SetTable) (p : Production) : Option Nat :=
  if first.holds p.lhs .epsilon then
    p.epsilonAlternative?.or (p.alternatives.findIdx? fun a => (firstOfSequence first a.symbols).2)
  else none

/-- The row of a production. -/
def tableRow (g : Grammar) (first : SetTable) (p : Production) : TableRow where
  state := p.lhs
  rules := g.tokens.filterMap fun t => (candidates first t.name p).head?.map fun i => (t.name, i)
  empty := emptyAlternative? first p

/-- The predictive table for given FIRST sets. -/
def predictiveTable (g : Grammar) (first : SetTable) : PredictiveTable :=
  g.productions.map (g.tableRow first)

/-- Rules of a state that never apply to a token because another one comes
first. -/
structure Shadowing where
  state : String
  token : String
  chosen : Nat
  shadowed : List Nat
deriving DecidableEq, Repr

/-- The shadowings of a production and a token; there is at most one. -/
def shadowing? (first : SetTable) (p : Production) (token : String) : Option Shadowing :=
  match candidates first token p with
  | chosen :: other :: more => some ⟨p.lhs, token, chosen, other :: more⟩
  | _ => none

/-- All shadowings, by production and then by token. -/
def shadowings (g : Grammar) (first : SetTable) : List Shadowing :=
  g.productions.flatMap fun p => g.tokens.filterMap fun t => shadowing? first p t.name

/-- Fails if more than one rule of a state can begin with a token. -/
def checkOverlap (g : Grammar) (first : SetTable) : Except GrammarError Unit :=
  match (g.productions.flatMap fun p => g.tokens.map fun t => (p, t.name)).find?
    fun (p, token) => 1 < (p.alternatives.countP fun a => startsWith first token a.symbols) with
  | some (p, token) => .error (.overlappingRules p.lhs token)
  | none => .ok ()

end PredictiveParsing.Grammar
