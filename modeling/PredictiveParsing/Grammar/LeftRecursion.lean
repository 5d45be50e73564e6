import PredictiveParsing.Grammar.Resolution

/-!
Left recursion. A state has an edge to every state that one of its rules can
start with, looking past epsilon and past states with an epsilon rule. A cycle of
edges is left recursion, and a depth-first walk finds one if there is one.
-/
namespace PredictiveParsing.Grammar

/-- The states that a rule with these symbols can start with. -/
def leadingStates (g : Grammar) : List Symbol → List String
  | [] => []
  | .epsilon :: more => g.leadingStates more
  | .token _ :: _ => []
  | .state name :: more =>
    if g.hasEpsilonRule name then name :: g.leadingStates more else [name]

/-- The states that a state can start with. -/
def leftCorners (g : Grammar) (state : String) : List String :=
  match g.production? state with
  | some p => (p.alternatives.flatMap fun a => g.leadingStates a.symbols).eraseDups
  | none => []

/-- Walks from a state over the edges. `path` leads to the state and `done` holds
the states that are known to lead to no cycle; the result extends them, or names
the state at which the walk met its own path. The path never repeats a state, so
`depth` more states than there are can not be on it. -/
def walk (edges : String → List String) :
    Nat → List String → List String → String → Except GrammarError (List String)
  | 0, _, done, _ => .ok done
  | depth + 1, path, done, state =>
    if state ∈ path then .error (.leftRecursion state)
    else if state ∈ done then .ok done
    else do
      let done ← (edges state).foldlM (fun done next => walk edges depth (state :: path) done next) done
      pure (state :: done)

/-- Fails if some state is left recursive. -/
def checkLeftRecursion (g : Grammar) : Except GrammarError Unit := do
  let _ ← g.productions.foldlM
    (fun done p => walk g.leftCorners (g.productions.length + 2) [] done p.lhs) []
  pure ()

/-- Whether two rules among these begin with the same symbol. -/
def sharesPrefix : List Alternative → Bool
  | [] => false
  | a :: more => more.any (·.symbols.head? == a.symbols.head?) || sharesPrefix more

/-- Fails if two rules of a state begin with the same symbol. Only the symbols as
written are compared. -/
def checkPrefixes (g : Grammar) : Except GrammarError Unit :=
  match g.productions.find? fun p => sharesPrefix p.alternatives with
  | some p => .error (.ambiguousRules p.lhs)
  | none => .ok ()

/-- The checks that look at the rules alone. -/
def checkStructure (g : Grammar) : Except GrammarError Unit := do
  g.checkLeftRecursion
  g.checkPrefixes

end PredictiveParsing.Grammar
