import PredictiveParsing.Parsing.Compiled

/-!
The run of a parse. A state is expanded by the rule that the table has for the
next token or, if there is none and the token can follow the state, by the rule
that derives nothing. The children of a rule are visited from left to right with
one cursor, and then the action of the rule is evaluated.
-/
namespace PredictiveParsing.Parsing

open Grammar (Alternative Symbol Terminal)

/-- What happens in one step. -/
inductive StepAction where
  /-- A state is expanded; the flag tells that it was to derive nothing. -/
  | expand (alternative : Alternative) (viaFollow : Bool)
  /-- A token is taken. -/
  | take (text : String)
  | unexpected (expected : Expectation)
  | recursionLimit
  | noProgress
deriving DecidableEq, Repr

/-- One step of a run: the nesting depth, the symbol visited, the position, the
next token, and what happens. -/
structure Step where
  depth : Nat
  symbol : String
  position : Nat
  lookahead : Option Token
  action : StepAction
deriving DecidableEq, Repr

/-- What a run keeps: the position of the next token, the states being expanded
with the positions at which they were entered, and the steps so far. -/
structure Run where
  cursor : Nat
  active : List (String × Nat)
  steps : Array Step
deriving DecidableEq, Repr

namespace Run

/-- The run before its first step. -/
def initial : Run := ⟨0, [], #[]⟩

/-- The next token; there is none at the end of the input. -/
def lookahead (stream : Stream) (r : Run) : Option Token :=
  stream.tokens[r.cursor]?

/-- The run with one more step. -/
def record (stream : Stream) (depth : Nat) (symbol : String) (action : StepAction) (r : Run) :
    Run :=
  { r with steps := r.steps.push ⟨depth, symbol, r.cursor, r.lookahead stream, action⟩ }

end Run

/-- The value or the failure of a visit, and the run behind it. -/
abbrev Outcome (V : Type) := Except ParseError V × Run

/-- Goes on with the value of a visit; a failure ends the run. -/
def Outcome.andThen {α β : Type} (o : Outcome α) (f : α → Run → Outcome β) : Outcome β :=
  match o with
  | (.ok a, r) => f a r
  | (.error e, r) => (.error e, r)

namespace Compiled

variable {V P : Type}

/-- Fails because the next token is not what is expected. -/
def unexpected {α : Type} (stream : Stream) (depth : Nat) (symbol : String)
    (expected : Expectation) (r : Run) : Outcome α :=
  let next := r.lookahead stream
  let offset := match next with
    | some t => t.offset
    | none => stream.length
  (.error (.unexpected r.cursor offset next expected),
    r.record stream depth symbol (.unexpected expected))

/-- The terminal that is next in the stream. -/
def nextTerminal (stream : Stream) (r : Run) : Terminal :=
  match r.lookahead stream with
  | some t => .token t.name
  | none => .endOfInput

/-- The index of the rule that a state is expanded by, and whether it was taken
because the next token can follow the state. -/
def select? (c : Compiled V P) (state : String) (next : Terminal) : Option (Nat × Bool) :=
  let chosen := match next with
    | .token name => c.table.rule? state name
    | _ => none
  match chosen with
  | some index => some (index, false)
  | none =>
    if c.follow.holds state next then (c.table.emptyRule? state).map fun index => (index, true)
    else none

/-- Takes the next token, which must have the name. -/
def visitToken (c : Compiled V P) (stream : Stream) (depth : Nat) (name : String) (r : Run) :
    Outcome V :=
  match r.lookahead stream with
  | some t =>
    if t.name = name then
      let r := r.record stream depth name (.take t.text)
      (.ok (c.evaluator.leaf t.text), { r with cursor := r.cursor + 1 })
    else unexpected stream depth name (.names [name]) r
  | none => unexpected stream depth name (.names [name]) r

/-- Visits symbols from left to right and gathers their values; epsilon has
none. The depth is that of the symbols. -/
def visitSymbols (c : Compiled V P) (stream : Stream) (depth : Nat)
    (visitState : String → Run → Outcome V) : List Symbol → Run → Outcome (List V)
  | [], r => (.ok [], r)
  | .epsilon :: more, r => visitSymbols c stream depth visitState more r
  | .token name :: more, r =>
    (c.visitToken stream depth name r).andThen fun v r =>
      (visitSymbols c stream depth visitState more r).andThen fun vs r => (.ok (v :: vs), r)
  | .state name :: more, r =>
    (visitState name r).andThen fun v r =>
      (visitSymbols c stream depth visitState more r).andThen fun vs r => (.ok (v :: vs), r)

/-- Expands a state and evaluates the action of its rule. `levels` is how many
levels of states may still nest; a state that is being expanded at the same
position is not expanded again, since it would choose the same rule. -/
def visitState (c : Compiled V P) (stream : Stream) :
    Nat → Nat → String → Run → Outcome V
  | 0, depth, state, r =>
    (.error (.recursionLimit r.cursor c.options.maxDepth),
      r.record stream depth state .recursionLimit)
  | levels + 1, depth, state, r =>
    if (state, r.cursor) ∈ r.active then
      (.error (.noProgress state r.cursor), r.record stream depth state .noProgress)
    else
      let entered := { r with active := (state, r.cursor) :: r.active }
      match c.select? state (nextTerminal stream r) with
      | none => unexpected stream depth state (.names (c.expectedNames state)) entered
      | some (index, viaFollow) =>
        match c.rule? state index with
        | none => unexpected stream depth state .declaredState entered
        | some rule =>
          let expanded := entered.record stream depth state (.expand rule.alternative viaFollow)
          (c.visitSymbols stream (depth + 1) (visitState c stream levels (depth + 1))
            rule.alternative.symbols expanded).andThen fun children after =>
              let left := { after with active := after.active.erase (state, r.cursor) }
              match c.evaluator.evaluate rule.program children with
              | .ok v => (.ok v, left)
              | .error e => (.error (.action state e), left)

/-- Parses a stream from the start state on, to its end if that is required. -/
def parseStream (c : Compiled V P) (stream : Stream) : Outcome V :=
  (c.visitState stream (c.options.maxDepth + 1) 0 Grammar.startName .initial).andThen fun v r =>
    if c.options.requireEnd && (r.lookahead stream).isSome then
      unexpected stream 0 Grammar.startName .endOfInput r
    else (.ok v, r)

/-- The value of an input. -/
def parse (c : Compiled V P) (input : String) : Except ParseError V :=
  match c.tokenize input with
  | .error e => .error e
  | .ok stream => (c.parseStream stream).1

/-- The value of an input with the steps that were taken, the failing one
included. -/
def parseWithTrace (c : Compiled V P) (input : String) : Except ParseError V × List Step :=
  match c.tokenize input with
  | .error e => (.error e, [])
  | .ok stream =>
    let (result, r) := c.parseStream stream
    (result, r.steps.toList)

end Compiled
end PredictiveParsing.Parsing
