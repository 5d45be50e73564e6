import PredictiveParsing.Proofs.Parsing.Compilation
import PredictiveParsing.Proofs.Parsing.Tree

/-!
What one visit of a state does, said once. It is refused, finds no rule, or expands the
rule that is selected for the token ahead and then acts on the values of its symbols. The
expansion is stated for any way of visiting the states inside.
-/
namespace PredictiveParsing.Parsing

open Grammar (Alternative Symbol Terminal)

variable {V P : Type}

theorem Outcome.andThen_eq_ok {α β : Type} {o : Outcome α} {f : α → Run → Outcome β} {b : β}
    {r' : Run} (h : o.andThen f = (.ok b, r')) :
    ∃ a r, o = (.ok a, r) ∧ f a r = (.ok b, r') := by
  obtain ⟨result, r⟩ := o
  cases result with
  | error e => cases h
  | ok a => exact ⟨a, r, rfl, h⟩

theorem Outcome.andThen_eq_error {α β : Type} {o : Outcome α} {f : α → Run → Outcome β}
    {e : ParseError} {r' : Run} (h : o.andThen f = (.error e, r')) :
    o = (.error e, r') ∨ ∃ a r, o = (.ok a, r) ∧ f a r = (.error e, r') := by
  obtain ⟨result, r⟩ := o
  cases result with
  | error e =>
      cases h
      exact .inl rfl
  | ok a => exact .inr ⟨a, r, rfl, h⟩

theorem Outcome.andThen_fst_error {α β : Type} {o : Outcome α} {e : ParseError}
    (h : o.1 = .error e) (f : α → Run → Outcome β) : (o.andThen f).1 = .error e := by
  obtain ⟨result, r⟩ := o
  cases h
  rfl

theorem Outcome.andThen_assoc {α β γ : Type} (o : Outcome α) (f : α → Run → Outcome β)
    (k : β → Run → Outcome γ) :
    (o.andThen f).andThen k = o.andThen fun a r => (f a r).andThen k := by
  obtain ⟨result, r⟩ := o
  cases result <;> rfl

namespace Run

/-- The run inside the expansion of a state. -/
def enter (stream : Stream) (depth : Nat) (state : String) (a : Alternative)
    (viaFollow : Bool) (r : Run) : Run :=
  record stream depth state (.expand a viaFollow)
    { r with active := (state, r.cursor) :: r.active }

/-- The run behind the expansion of a state that was entered at a position. -/
def leave (state : String) (entered : Nat) (r : Run) : Run :=
  { r with active := r.active.erase (state, entered) }

/-- The run behind a token that is taken. -/
def take (stream : Stream) (depth : Nat) (t : Token) (r : Run) : Run :=
  { r.record stream depth t.name (.take t.text) with cursor := r.cursor + 1 }

/-- The tokens that are still to be read. -/
def remaining (stream : Stream) (r : Run) : List Token :=
  stream.tokens.toList.drop r.cursor

theorem remaining_congr {stream : Stream} {r r' : Run} (h : r'.cursor = r.cursor) :
    r'.remaining stream = r.remaining stream := by
  rw [remaining, remaining, h]

theorem lookahead_eq (stream : Stream) (r : Run) :
    r.lookahead stream = (r.remaining stream).head? := by
  rw [lookahead, remaining, List.head?_drop, Array.getElem?_toList]

@[simp] theorem record_steps (stream : Stream) (depth : Nat) (symbol : String)
    (action : StepAction) (r : Run) :
    (r.record stream depth symbol action).steps.toList =
      r.steps.toList ++ [⟨depth, symbol, r.cursor, r.lookahead stream, action⟩] := by
  simp [record]

@[simp] theorem enter_active (stream : Stream) (depth : Nat) (state : String)
    (a : Alternative) (viaFollow : Bool) (r : Run) :
    (r.enter stream depth state a viaFollow).active = (state, r.cursor) :: r.active :=
  rfl

@[simp] theorem enter_steps (stream : Stream) (depth : Nat) (state : String)
    (a : Alternative) (viaFollow : Bool) (r : Run) :
    (r.enter stream depth state a viaFollow).steps.toList =
      r.steps.toList ++
        [⟨depth, state, r.cursor, r.lookahead stream, .expand a viaFollow⟩] := by
  simp [enter, lookahead]

@[simp] theorem leave_steps (state : String) (entered : Nat) (r : Run) :
    (r.leave state entered).steps = r.steps :=
  rfl

@[simp] theorem take_steps (stream : Stream) (depth : Nat) (t : Token) (r : Run) :
    (r.take stream depth t).steps.toList =
      r.steps.toList ++ [⟨depth, t.name, r.cursor, r.lookahead stream, .take t.text⟩] :=
  record_steps ..

end Run

namespace Compiled

variable {c : Compiled V P} {stream : Stream}

theorem nextTerminal_congr {r r' : Run} (h : r'.cursor = r.cursor) :
    nextTerminal stream r' = nextTerminal stream r := by
  rw [nextTerminal, nextTerminal, Run.lookahead, Run.lookahead, h]

theorem exists_alternative? (wf : c.WellFormed) {state : String} {next : Terminal}
    {index : Nat} {viaFollow : Bool} (h : c.select? state next = some (index, viaFollow)) :
    ∃ a, c.grammar.alternative? state index = some a := by
  cases viaFollow with
  | false =>
      obtain ⟨-, a, -, ha, -⟩ := of_select?_table wf h
      exact ⟨a, ha⟩
  | true =>
      obtain ⟨⟨a, ha, -⟩, -⟩ := of_select?_follow wf h
      exact ⟨a, ha⟩

section Token

variable {depth : Nat} {name : String} {r r' : Run}

theorem visitToken_ahead {t : Token} (ahead : r.lookahead stream = some t) (depth : Nat) :
    c.visitToken stream depth t.name r =
      (.ok (c.evaluator.leaf t.text), r.take stream depth t) := by
  simp only [visitToken, ahead, if_true]
  rfl

/-- The ways a visit of a token goes. -/
theorem visitToken_cases (c : Compiled V P) (stream : Stream) (depth : Nat) (name : String)
    (r : Run) :
    (∃ t, r.lookahead stream = some t ∧ t.name = name ∧
      c.visitToken stream depth name r =
        (.ok (c.evaluator.leaf t.text), r.take stream depth t)) ∨
      c.visitToken stream depth name r =
        unexpected stream depth name (.names [name]) r := by
  cases ahead : r.lookahead stream with
  | none =>
      right
      rw [visitToken, ahead]
  | some t =>
      by_cases named : t.name = name
      · subst named
        exact .inl ⟨t, rfl, rfl, visitToken_ahead ahead depth⟩
      · right
        simp only [visitToken, ahead, named, if_false]

theorem visitToken_eq_ok {v : V} (h : c.visitToken stream depth name r = (.ok v, r')) :
    ∃ t, r.lookahead stream = some t ∧ t.name = name ∧ c.evaluator.leaf t.text = v ∧
      r.take stream depth t = r' := by
  rcases visitToken_cases c stream depth name r with ⟨t, ahead, named, taken⟩ | failed
  · rw [taken] at h
    cases h
    exact ⟨t, ahead, named, rfl, rfl⟩
  · rw [failed] at h
    cases h

theorem visitToken_eq_error {e : ParseError}
    (h : c.visitToken stream depth name r = (.error e, r')) :
    unexpected stream depth name (.names [name]) r = ((.error e, r') : Outcome V) := by
  rcases visitToken_cases c stream depth name r with ⟨t, -, -, taken⟩ | failed
  · rw [taken] at h
    cases h
  · exact failed.symm.trans h

end Token

section Symbols

variable {depth : Nat} {visit : String → Run → Outcome V}

theorem visitSymbols_append (u v : List Symbol) (r : Run) :
    c.visitSymbols stream depth visit (u ++ v) r =
      (c.visitSymbols stream depth visit u r).andThen fun vs r =>
        (c.visitSymbols stream depth visit v r).andThen fun ws r => (.ok (vs ++ ws), r) := by
  have nil : ∀ o : Outcome (List V), o.andThen (fun ws r => (.ok ([] ++ ws), r)) = o := by
    rintro ⟨_ | _, _⟩ <;> rfl
  induction u generalizing r with
  | nil => exact (nil _).symm
  | cons y u ih =>
      cases y with
      | epsilon => exact ih r
      | token _ | state _ =>
          simp only [List.cons_append, visitSymbols, ih, Outcome.andThen_assoc]
          rfl

/-- What relates the visits of single symbols, and is carried on by what is done with their
values, relates the visits of all the symbols. -/
theorem visitSymbols_lift {c' : Compiled V P} {stream' : Stream}
    {visit' : String → Run → Outcome V} (rel : ∀ {α : Type}, Run → Outcome α → Outcome α → Prop)
    (value : ∀ {α : Type} (a : α) (r : Run), rel r (.ok a, r) (.ok a, r))
    (andThen : ∀ {α β : Type} {r : Run} {o o' : Outcome α} {f f' : α → Run → Outcome β},
      rel r o o' → (∀ a r, rel r (f a r) (f' a r)) → rel r (o.andThen f) (o'.andThen f'))
    (token : ∀ name r, rel r (c.visitToken stream depth name r)
      (c'.visitToken stream' depth name r))
    (state : ∀ name r, rel r (visit name r) (visit' name r)) (symbols : List Symbol) (r : Run) :
    rel r (c.visitSymbols stream depth visit symbols r)
      (c'.visitSymbols stream' depth visit' symbols r) := by
  induction symbols generalizing r with
  | nil => exact value [] r
  | cons y more ih =>
      cases y with
      | epsilon => exact ih r
      | token name =>
          exact andThen (token name r) fun v r => andThen (ih r) fun vs r => value (v :: vs) r
      | state name =>
          exact andThen (state name r) fun v r => andThen (ih r) fun vs r => value (v :: vs) r

/-- A visit of symbols depends on the grammar by its evaluator and the visits inside alone. -/
theorem visitSymbols_congr {c' : Compiled V P} (same : c'.evaluator = c.evaluator)
    (symbols : List Symbol) (r : Run) :
    c'.visitSymbols stream depth visit symbols r = c.visitSymbols stream depth visit symbols r := by
  refine visitSymbols_lift (fun _ o o' => o = o') (fun _ _ => rfl) ?_ ?_ (fun _ _ => rfl) symbols r
  · rintro α β r o _ f f' rfl next
    exact congrArg o.andThen (funext fun a => funext fun r => next a r)
  · intro name r
    rw [visitToken, visitToken, same]

theorem visitSymbols_cons_ok {y : Symbol} {more : List Symbol} {r r₁ r₂ : Run} {vs ws : List V}
    (first : c.visitSymbols stream depth visit [y] r = (.ok vs, r₁))
    (rest : c.visitSymbols stream depth visit more r₁ = (.ok ws, r₂)) :
    c.visitSymbols stream depth visit (y :: more) r = (.ok (vs ++ ws), r₂) := by
  rw [← List.singleton_append, visitSymbols_append, first]
  simp only [Outcome.andThen, rest]

/-- A visit of symbols fails at one of them, behind symbols that have their values. -/
theorem visitSymbols_error {symbols : List Symbol} {r r' : Run} {e : ParseError}
    (h : c.visitSymbols stream depth visit symbols r = (.error e, r')) :
    ∃ before y behind vs r₁, symbols = before ++ y :: behind ∧
      c.visitSymbols stream depth visit before r = (.ok vs, r₁) ∧
      c.visitSymbols stream depth visit [y] r₁ = (.error e, r') := by
  induction symbols generalizing r with
  | nil => cases h
  | cons y more ih =>
      rw [← List.singleton_append, visitSymbols_append] at h
      rcases Outcome.andThen_eq_error h with h | ⟨vs, r₁, first, h⟩
      · exact ⟨[], y, more, [], r, rfl, rfl, h⟩
      · rcases Outcome.andThen_eq_error h with h | ⟨_, _, -, h⟩
        · obtain ⟨before, z, behind, ws, r₂, rfl, rest, failed⟩ := ih h
          exact ⟨y :: before, z, behind, vs ++ ws, r₂, rfl, visitSymbols_cons_ok first rest, failed⟩
        · cases h

theorem visitToken_error {name : String} {r r' : Run} {e : ParseError}
    (h : c.visitToken stream depth name r = (.error e, r')) :
    r'.cursor = r.cursor ∧
      ∃ position offset found expected, e = .unexpected position offset found expected := by
  cases visitToken_eq_error h
  exact ⟨rfl, _, _, _, _, rfl⟩

theorem visitSymbols_token_error {name : String} {r r' : Run} {e : ParseError}
    (h : c.visitSymbols stream depth visit [.token name] r = (.error e, r')) :
    r'.cursor = r.cursor ∧
      ∃ position offset found expected, e = .unexpected position offset found expected := by
  rw [visitSymbols] at h
  rcases Outcome.andThen_eq_error h with h | ⟨_, _, -, h⟩
  · exact visitToken_error h
  · cases h

theorem visitSymbols_state_error {name : String} {r r' : Run} {e : ParseError} :
    c.visitSymbols stream depth visit [.state name] r = (.error e, r') ↔
      visit name r = (.error e, r') := by
  rw [visitSymbols]
  obtain ⟨_ | v, r₁⟩ := visit name r <;> simp [Outcome.andThen, visitSymbols]

/-- A visit of symbols fails as one of their states does, if those in front of it have
their values. -/
theorem visitSymbols_failed {before behind : List Symbol} {name : String} {r r₁ : Run}
    {vs : List V} {e : ParseError}
    (read : c.visitSymbols stream depth visit before r = (.ok vs, r₁))
    (failed : (visit name r₁).1 = .error e) :
    (c.visitSymbols stream depth visit (before ++ .state name :: behind) r).1 = .error e := by
  rw [visitSymbols_append, read]
  exact Outcome.andThen_fst_error (Outcome.andThen_fst_error failed _) _

end Symbols

/-- The expansion of a state that is not refused; `visit` visits the states inside. -/
def expand (c : Compiled V P) (stream : Stream) (depth : Nat)
    (visit : String → Run → Outcome V) (state : String) (r : Run) : Outcome V :=
  let entered := { r with active := (state, r.cursor) :: r.active }
  match c.select? state (nextTerminal stream r) with
  | none => unexpected stream depth state (.names (c.expectedNames state)) entered
  | some (index, viaFollow) =>
    match c.rule? state index with
    | none => unexpected stream depth state .declaredState entered
    | some rule =>
      let expanded := entered.record stream depth state (.expand rule.alternative viaFollow)
      (c.visitSymbols stream (depth + 1) visit rule.alternative.symbols expanded).andThen
        fun children after =>
          let left := { after with active := after.active.erase (state, r.cursor) }
          match c.evaluator.evaluate rule.program children with
          | .ok v => (.ok v, left)
          | .error e => (.error (.action state e), left)

section Visit

variable {levels depth : Nat} {state : String} {r : Run} {visit : String → Run → Outcome V}

theorem visitState_succ (c : Compiled V P) (stream : Stream) (levels depth : Nat)
    (state : String) (r : Run) :
    c.visitState stream (levels + 1) depth state r =
      if (state, r.cursor) ∈ r.active then
        (.error (.noProgress state r.cursor), r.record stream depth state .noProgress)
      else c.expand stream depth (c.visitState stream levels (depth + 1)) state r := by
  rw [visitState]
  rfl

theorem expand_unexpected (h : c.select? state (nextTerminal stream r) = none) :
    c.expand stream depth visit state r =
      unexpected stream depth state (.names (c.expectedNames state))
        { r with active := (state, r.cursor) :: r.active } := by
  simp only [expand, h]

theorem expand_selected (wf : c.WellFormed) {index : Nat} {viaFollow : Bool} {a : Alternative}
    (h : c.select? state (nextTerminal stream r) = some (index, viaFollow))
    (ha : c.grammar.alternative? state index = some a) :
    c.expand stream depth visit state r =
      (c.visitSymbols stream (depth + 1) visit a.symbols
        (r.enter stream depth state a viaFollow)).andThen fun children after =>
          (act c.evaluator state a children, after.leave state r.cursor) := by
  obtain ⟨rule, hr, rfl⟩ := exists_rule wf ha
  have program := (rule?_ok wf hr).2
  simp only [expand, h, hr]
  refine congrArg _ (funext fun children => funext fun after => ?_)
  simp only [act, program]
  cases c.evaluator.evaluate rule.program children <;> rfl

theorem expand_error (wf : c.WellFormed) {index : Nat} {viaFollow : Bool} {a : Alternative}
    {e : ParseError} (h : c.select? state (nextTerminal stream r) = some (index, viaFollow))
    (ha : c.grammar.alternative? state index = some a)
    (failed : (c.visitSymbols stream (depth + 1) visit a.symbols
      (r.enter stream depth state a viaFollow)).1 = .error e) :
    (c.expand stream depth visit state r).1 = .error e := by
  rw [expand_selected wf h ha]
  exact Outcome.andThen_fst_error failed _

/-- The expansion finds no rule, or visits the symbols of one; the rule does not depend on
how the states inside are visited. -/
theorem expand_cases (wf : c.WellFormed) (stream : Stream) (state : String) (r : Run) :
    (c.select? state (nextTerminal stream r) = none ∧ ∀ depth visit,
      c.expand stream depth visit state r =
        unexpected stream depth state (.names (c.expectedNames state))
          { r with active := (state, r.cursor) :: r.active }) ∨
    ∃ index viaFollow a, c.select? state (nextTerminal stream r) = some (index, viaFollow) ∧
      c.grammar.alternative? state index = some a ∧ ∀ depth visit,
        c.expand stream depth visit state r =
          (c.visitSymbols stream (depth + 1) visit a.symbols
            (r.enter stream depth state a viaFollow)).andThen fun children after =>
              (act c.evaluator state a children, after.leave state r.cursor) := by
  cases hs : c.select? state (nextTerminal stream r) with
  | none => exact .inl ⟨rfl, fun _ _ => expand_unexpected hs⟩
  | some selected =>
      obtain ⟨index, viaFollow⟩ := selected
      obtain ⟨a, ha⟩ := exists_alternative? wf hs
      exact .inr ⟨index, viaFollow, a, rfl, ha, fun _ _ => expand_selected wf hs ha⟩

theorem visitState_active (h : (state, r.cursor) ∈ r.active) :
    c.visitState stream (levels + 1) depth state r =
      (.error (.noProgress state r.cursor), r.record stream depth state .noProgress) := by
  rw [visitState_succ, if_pos h]

theorem visitState_expand (wf : c.WellFormed) (free : (state, r.cursor) ∉ r.active)
    {index : Nat} {viaFollow : Bool} {a : Alternative}
    (h : c.select? state (nextTerminal stream r) = some (index, viaFollow))
    (ha : c.grammar.alternative? state index = some a) :
    c.visitState stream (levels + 1) depth state r =
      (c.visitSymbols stream (depth + 1) (c.visitState stream levels (depth + 1)) a.symbols
        (r.enter stream depth state a viaFollow)).andThen fun children after =>
          (act c.evaluator state a children, after.leave state r.cursor) := by
  rw [visitState_succ, if_neg free, expand_selected wf h ha]

/-- The ways a visit goes as long as levels are left. -/
theorem visitState_cases (wf : c.WellFormed) (stream : Stream) (levels depth : Nat)
    (state : String) (r : Run) :
    c.visitState stream (levels + 1) depth state r =
        (.error (.noProgress state r.cursor), r.record stream depth state .noProgress) ∨
      (c.select? state (nextTerminal stream r) = none ∧
        c.visitState stream (levels + 1) depth state r =
          unexpected stream depth state (.names (c.expectedNames state))
            { r with active := (state, r.cursor) :: r.active }) ∨
      ∃ index viaFollow a,
        c.select? state (nextTerminal stream r) = some (index, viaFollow) ∧
        c.grammar.alternative? state index = some a ∧
        c.visitState stream (levels + 1) depth state r =
          (c.visitSymbols stream (depth + 1) (c.visitState stream levels (depth + 1)) a.symbols
            (r.enter stream depth state a viaFollow)).andThen fun children after =>
              (act c.evaluator state a children, after.leave state r.cursor) := by
  by_cases busy : (state, r.cursor) ∈ r.active
  · exact .inl (visitState_active busy)
  · rw [visitState_succ, if_neg busy]
    rcases expand_cases wf stream state r with
      ⟨none, refused⟩ | ⟨index, viaFollow, a, selected, ha, expanded⟩
    · exact .inr (.inl ⟨none, refused ..⟩)
    · exact .inr (.inr ⟨index, viaFollow, a, selected, ha, expanded ..⟩)

end Visit

theorem parseStream_ok {v : V} {r : Run} (h : c.parseStream stream = (.ok v, r)) :
    c.visitState stream (c.options.maxDepth + 1) 0 Grammar.startName .initial = (.ok v, r) ∧
      (c.options.requireEnd = true → r.lookahead stream = none) := by
  obtain ⟨w, r₁, read, h⟩ := Outcome.andThen_eq_ok h
  split at h
  · cases h
  · next atEnd =>
      cases h
      exact ⟨read, fun required => by simpa [required] using atEnd⟩

/-- A parse fails inside the start state, or behind it where the input should end. -/
theorem parseStream_error {e : ParseError} (h : (c.parseStream stream).1 = .error e) :
    c.visitState stream (c.options.maxDepth + 1) 0 Grammar.startName .initial =
        (.error e, (c.parseStream stream).2) ∨
      ∃ v r, c.visitState stream (c.options.maxDepth + 1) 0 Grammar.startName .initial =
          (.ok v, r) ∧ c.options.requireEnd = true ∧ (r.lookahead stream).isSome = true ∧
        c.parseStream stream = unexpected stream 0 Grammar.startName .endOfInput r := by
  have failed : c.parseStream stream = (.error e, (c.parseStream stream).2) := Prod.ext h rfl
  rcases Outcome.andThen_eq_error failed with inside | ⟨v, r, read, behind⟩
  · exact .inl inside
  · split at behind
    · next left =>
        obtain ⟨required, more⟩ := Bool.and_eq_true_iff.mp left
        exact .inr ⟨v, r, read, required, more, failed.trans behind.symm⟩
    · cases behind

end Compiled
end PredictiveParsing.Parsing
