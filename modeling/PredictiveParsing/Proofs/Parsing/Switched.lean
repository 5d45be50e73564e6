import PredictiveParsing.Proofs.Parsing.Visit

/-!
The engine with a switch for its steps. What is done with them has no part in the run: with
the switch on it is the run of `parseWithTrace`, and with the switch off it is the same run
without its steps.
-/
namespace PredictiveParsing.Parsing

open Grammar (Symbol)

variable {V P : Type}

namespace Run

/-- The run with one more step, if steps are kept. -/
def note (keep : Bool) (stream : Stream) (depth : Nat) (symbol : String) (action : StepAction)
    (r : Run) : Run :=
  if keep then r.record stream depth symbol action else r

/-- The run with its steps, if they are kept. -/
def kept (keep : Bool) (r : Run) : Run :=
  if keep then r else { r with steps := #[] }

variable (keep : Bool) (r : Run)

@[simp] theorem kept_cursor : (r.kept keep).cursor = r.cursor := by
  cases keep <;> rfl

@[simp] theorem kept_active : (r.kept keep).active = r.active := by
  cases keep <;> rfl

@[simp] theorem kept_lookahead (stream : Stream) :
    (r.kept keep).lookahead stream = r.lookahead stream := by
  cases keep <;> rfl

@[simp] theorem kept_note (stream : Stream) (depth : Nat) (symbol : String)
    (action : StepAction) :
    (r.kept keep).note keep stream depth symbol action =
      (r.record stream depth symbol action).kept keep := by
  cases keep <;> rfl

theorem mk_kept (cursor : Nat) (active : List (String × Nat)) :
    (⟨cursor, active, (r.kept keep).steps⟩ : Run) =
      (⟨cursor, active, r.steps⟩ : Run).kept keep := by
  cases keep <;> rfl

end Run

/-- The outcome with the steps of its run, if they are kept. -/
def Outcome.kept {α : Type} (keep : Bool) (o : Outcome α) : Outcome α :=
  (o.1, o.2.kept keep)

namespace Outcome

variable {α β : Type} {keep : Bool}

theorem kept_andThen {o o' : Outcome α} {f f' : α → Run → Outcome β}
    (first : o' = o.kept keep) (next : ∀ a r, f' a (r.kept keep) = (f a r).kept keep) :
    o'.andThen f' = (o.andThen f).kept keep := by
  subst first
  obtain ⟨e | a, r⟩ := o
  · rfl
  · exact next a r

end Outcome

namespace Switched

open Compiled (nextTerminal)

def unexpected {α : Type} (keep : Bool) (stream : Stream) (depth : Nat) (symbol : String)
    (expected : Expectation) (r : Run) : Outcome α :=
  let next := r.lookahead stream
  let offset := match next with
    | some t => t.offset
    | none => stream.length
  (.error (.unexpected r.cursor offset next expected),
    r.note keep stream depth symbol (.unexpected expected))

def visitToken (c : Compiled V P) (keep : Bool) (stream : Stream) (depth : Nat) (name : String)
    (r : Run) : Outcome V :=
  match r.lookahead stream with
  | some t =>
    if t.name = name then
      let r := r.note keep stream depth name (.take t.text)
      (.ok (c.evaluator.leaf t.text), { r with cursor := r.cursor + 1 })
    else unexpected keep stream depth name (.names [name]) r
  | none => unexpected keep stream depth name (.names [name]) r

def visitSymbols (c : Compiled V P) (keep : Bool) (stream : Stream) (depth : Nat)
    (visitState : String → Run → Outcome V) : List Symbol → Run → Outcome (List V)
  | [], r => (.ok [], r)
  | .epsilon :: more, r => visitSymbols c keep stream depth visitState more r
  | .token name :: more, r =>
    (visitToken c keep stream depth name r).andThen fun v r =>
      (visitSymbols c keep stream depth visitState more r).andThen fun vs r =>
        (.ok (v :: vs), r)
  | .state name :: more, r =>
    (visitState name r).andThen fun v r =>
      (visitSymbols c keep stream depth visitState more r).andThen fun vs r =>
        (.ok (v :: vs), r)

def visitState (c : Compiled V P) (keep : Bool) (stream : Stream) :
    Nat → Nat → String → Run → Outcome V
  | 0, depth, state, r =>
    (.error (.recursionLimit r.cursor c.options.maxDepth),
      r.note keep stream depth state .recursionLimit)
  | levels + 1, depth, state, r =>
    if r.active.contains (state, r.cursor) then
      (.error (.noProgress state r.cursor), r.note keep stream depth state .noProgress)
    else
      let entered := { r with active := (state, r.cursor) :: r.active }
      match c.select? state (nextTerminal stream r) with
      | none => unexpected keep stream depth state (.names (c.expectedNames state)) entered
      | some (index, viaFollow) =>
        match c.rule? state index with
        | none => unexpected keep stream depth state .declaredState entered
        | some rule =>
          let expanded := entered.note keep stream depth state (.expand rule.alternative viaFollow)
          (visitSymbols c keep stream (depth + 1) (visitState c keep stream levels (depth + 1))
            rule.alternative.symbols expanded).andThen fun children after =>
              let left := { after with active := after.active.erase (state, r.cursor) }
              match c.evaluator.evaluate rule.program children with
              | .ok v => (.ok v, left)
              | .error e => (.error (.action state e), left)

def parseStream (c : Compiled V P) (keep : Bool) (stream : Stream) : Outcome V :=
  (visitState c keep stream (c.options.maxDepth + 1) 0 Grammar.startName .initial).andThen
    fun v r =>
      if c.options.requireEnd && (r.lookahead stream).isSome then
        unexpected keep stream 0 Grammar.startName .endOfInput r
      else (.ok v, r)

/-- The value of an input and the steps that were kept. -/
def parse (c : Compiled V P) (keep : Bool) (input : String) : Except ParseError V × List Step :=
  match c.tokenize input with
  | .error e => (.error e, [])
  | .ok stream =>
    let (result, r) := parseStream c keep stream
    (result, r.steps.toList)

variable {c : Compiled V P} {keep : Bool} {stream : Stream}

theorem unexpected_kept {α : Type} (depth : Nat) (symbol : String) (expected : Expectation)
    (r : Run) : (unexpected keep stream depth symbol expected (r.kept keep) : Outcome α) =
      (Compiled.unexpected stream depth symbol expected r).kept keep := by
  simp only [unexpected, Run.kept_lookahead, Run.kept_cursor, Run.kept_note]
  rfl

theorem visitToken_kept (depth : Nat) (name : String) (r : Run) :
    visitToken c keep stream depth name (r.kept keep) =
      (c.visitToken stream depth name r).kept keep := by
  rw [visitToken, Compiled.visitToken, Run.kept_lookahead]
  cases r.lookahead stream with
  | none => exact unexpected_kept depth name _ r
  | some t =>
      by_cases named : t.name = name
      · simp only [named, if_true, Run.kept_note, Run.kept_cursor]
        cases keep <;> rfl
      · simp only [named, if_false]
        exact unexpected_kept depth name _ r

theorem visitSymbols_kept {depth : Nat} {visit visit' : String → Run → Outcome V}
    (inside : ∀ name r, visit' name (r.kept keep) = (visit name r).kept keep)
    (symbols : List Symbol) (r : Run) :
    visitSymbols c keep stream depth visit' symbols (r.kept keep) =
      (c.visitSymbols stream depth visit symbols r).kept keep := by
  induction symbols generalizing r with
  | nil => rfl
  | cons y more ih =>
      cases y with
      | epsilon => exact ih r
      | token name =>
          apply Outcome.kept_andThen (visitToken_kept depth name r)
          exact fun v r => Outcome.kept_andThen (ih r) fun _ _ => rfl
      | state name =>
          apply Outcome.kept_andThen (inside name r)
          exact fun v r => Outcome.kept_andThen (ih r) fun _ _ => rfl

theorem visitState_kept (levels depth : Nat) (state : String) (r : Run) :
    visitState c keep stream levels depth state (r.kept keep) =
      (c.visitState stream levels depth state r).kept keep := by
  induction levels generalizing depth state r with
  | zero =>
      rw [visitState, Compiled.visitState, Run.kept_note, Run.kept_cursor]
      rfl
  | succ levels ih =>
      have next : nextTerminal stream (r.kept keep) = nextTerminal stream r := by
        rw [nextTerminal, nextTerminal, Run.kept_lookahead]
      simp only [visitState, Compiled.visitState, List.contains_iff_mem, Run.kept_cursor,
        Run.kept_active, Run.mk_kept, Run.kept_note, next]
      by_cases busy : (state, r.cursor) ∈ r.active
      · simp only [busy, if_true]
        rfl
      · simp only [busy, if_false]
        cases c.select? state (nextTerminal stream r) with
        | none => exact unexpected_kept depth state _ _
        | some selected =>
            dsimp only
            cases c.rule? state selected.1 with
            | none => exact unexpected_kept depth state _ _
            | some rule =>
                apply Outcome.kept_andThen (visitSymbols_kept (ih (depth + 1)) _ _)
                intro children after
                cases c.evaluator.evaluate rule.program children <;> cases keep <;> rfl

theorem parseStream_kept : parseStream c keep stream = (c.parseStream stream).kept keep := by
  have initial : Run.initial.kept keep = .initial := by
    cases keep <;> rfl
  rw [parseStream, ← initial]
  apply Outcome.kept_andThen (visitState_kept ..)
  intro v r
  rw [Run.kept_lookahead]
  split
  · exact unexpected_kept 0 _ _ r
  · rfl

/-- Keeping the steps or not changes nothing else. -/
theorem parse_kept (c : Compiled V P) (input : String) :
    parse c true input = c.parseWithTrace input ∧ parse c false input = (c.parse input, []) := by
  simp only [parse, parseStream_kept, Compiled.parse, Compiled.parseWithTrace]
  cases c.tokenize input with
  | error e => exact ⟨rfl, rfl⟩
  | ok stream => exact ⟨rfl, rfl⟩

end Switched
end PredictiveParsing.Parsing
