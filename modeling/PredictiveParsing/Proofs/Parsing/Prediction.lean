import PredictiveParsing.Pattern.Search
import PredictiveParsing.Proofs.Parsing.Visit

/-!
Predictions are kept. A state that is expanded because of what follows it vanishes, with
everything below it; a state that is expanded by the table takes the token ahead before
anything can be unexpected. FIRST sets decide for every state inside a rule which of the
two it is, and FOLLOW sets carry the permission to vanish down to it.
-/
namespace PredictiveParsing.Parsing

open Grammar (Alternative Symbol Terminal SetTable Followed firstOfSequence)

variable {V P : Type}

def Step.takes (s : Step) : Bool :=
  match s.action with
  | .take _ => true
  | _ => false

def Step.rejects (s : Step) : Bool :=
  match s.action with
  | .unexpected _ => true
  | _ => false

/-- Whether the step is part of vanishing: a state is expanded because of what follows
it, or its visit is refused whatever is ahead. -/
def Step.vanishes (s : Step) : Bool :=
  match s.action with
  | .expand _ viaFollow => viaFollow
  | .recursionLimit | .noProgress => true
  | .take _ | .unexpected _ => false

/-- Whether the failure is independent of the token ahead. -/
def ParseError.isInner : ParseError → Bool
  | .recursionLimit .. | .noProgress .. | .action .. => true
  | .noToken .. | .unexpected .. => false

/-- The outcome goes on from the run by steps of one kind, ends at a position of one
kind, and fails, if it does, in a way of one kind. -/
structure Keeps (here : Nat → Prop) (step : Step → Prop) (failure : ParseError → Prop) {α : Type}
    (r : Run) (o : Outcome α) : Prop where
  cursor : here o.2.cursor
  steps : ∃ new, o.2.steps.toList = r.steps.toList ++ new ∧ ∀ s ∈ new, step s
  error : ∀ e, o.1 = .error e → failure e

namespace Keeps

variable {here : Nat → Prop} {step : Step → Prop} {failure : ParseError → Prop} {α β : Type}

theorem ok {r : Run} (h : here r.cursor) (a : α) :
    Keeps here step failure r ((.ok a, r) : Outcome α) :=
  ⟨h, ⟨[], by simp, nofun⟩, nofun⟩

theorem andThen {r : Run} {o : Outcome α} {f : α → Run → Outcome β}
    (h : Keeps here step failure r o)
    (k : ∀ a r', o = (.ok a, r') → here r'.cursor → Keeps here step failure r' (f a r')) :
    Keeps here step failure r (o.andThen f) := by
  obtain ⟨result, r'⟩ := o
  cases result with
  | error e =>
      refine ⟨h.cursor, h.steps, fun e' he => ?_⟩
      cases he
      exact h.error e rfl
  | ok a =>
      have k := k a r' rfl h.cursor
      obtain ⟨before, hb, eachBefore⟩ := h.steps
      obtain ⟨after, ha, eachAfter⟩ := k.steps
      refine ⟨k.cursor, ⟨before ++ after, ?_, ?_⟩, k.error⟩
      · rw [← List.append_assoc, ← hb]
        exact ha
      · intro s hs
        exact (List.mem_append.mp hs).elim (eachBefore s) (eachAfter s)

theorem record {stream : Stream} {depth : Nat} {symbol : String} {action : StepAction}
    {e : ParseError} {r r' : Run} (h : here r'.cursor) (hs : r'.steps = r.steps)
    (one : step ⟨depth, symbol, r'.cursor, r'.lookahead stream, action⟩) (fail : failure e) :
    Keeps here step failure r ((.error e, r'.record stream depth symbol action) : Outcome α) := by
  refine ⟨h, ⟨[_], (Run.record_steps ..).trans (by rw [hs]), ?_⟩, ?_⟩
  · intro s hm
    obtain rfl := List.mem_singleton.mp hm
    exact one
  · intro e' he
    cases he
    exact fail

theorem of_step {r r' : Run} {s : Step} {o : Outcome α} (h : Keeps here step failure r' o)
    (hs : r'.steps.toList = r.steps.toList ++ [s]) (one : step s) :
    Keeps here step failure r o := by
  obtain ⟨new, hn, each⟩ := h.steps
  refine ⟨h.cursor, ⟨s :: new, ?_, ?_⟩, h.error⟩
  · rw [hn, hs, List.append_assoc, List.singleton_append]
  · intro t ht
    rcases List.mem_cons.mp ht with rfl | ht
    · exact one
    · exact each t ht

end Keeps

namespace Compiled

variable {c : Compiled V P} {stream : Stream}

section Symbols

variable {here : Nat → Prop} {step : Step → Prop} {failure : ParseError → Prop}

/-- Visiting symbols keeps what every visit of one of them keeps. -/
theorem visitSymbols_keeps {depth : Nat} {visit : String → Run → Outcome V}
    {symbols : List Symbol}
    (token : ∀ name, .token name ∈ symbols → ∀ r, here r.cursor →
      Keeps here step failure r (c.visitToken stream depth name r))
    (state : ∀ name, .state name ∈ symbols → ∀ r, here r.cursor →
      Keeps here step failure r (visit name r))
    {r : Run} (h : here r.cursor) :
    Keeps here step failure r (c.visitSymbols stream depth visit symbols r) := by
  induction symbols generalizing r with
  | nil => exact .ok h []
  | cons y more ih =>
      have rest : ∀ {r : Run}, here r.cursor →
          Keeps here step failure r (c.visitSymbols stream depth visit more r) := fun h =>
        ih (fun name hm => token name (List.mem_cons_of_mem _ hm))
          (fun name hm => state name (List.mem_cons_of_mem _ hm)) h
      cases y with
      | epsilon => exact rest h
      | token name =>
          refine (token name List.mem_cons_self r h).andThen fun v r₁ _ h₁ => ?_
          exact (rest h₁).andThen fun vs r₂ _ h₂ => .ok h₂ _
      | state name =>
          refine (state name List.mem_cons_self r h).andThen fun v r₁ _ h₁ => ?_
          exact (rest h₁).andThen fun vs r₂ _ h₂ => .ok h₂ _

theorem act_keeps {r : Run} {entered : Nat} {state : String} {a : Alternative}
    {children : List V} (h : here r.cursor) (fail : ∀ cause, failure (.action state cause)) :
    Keeps here step failure r
      ((act c.evaluator state a children, r.leave state entered) : Outcome V) := by
  refine ⟨h, ⟨[], by simp, nofun⟩, fun e he => ?_⟩
  obtain ⟨cause, rfl⟩ := act_error he
  exact fail cause

theorem expand_keeps {r : Run} {depth entered : Nat} {state : String} {a : Alternative}
    {viaFollow : Bool} {o : Outcome (List V)}
    (inside : Keeps here step failure (r.enter stream depth state a viaFollow) o)
    (one : step ⟨depth, state, r.cursor, r.lookahead stream, .expand a viaFollow⟩)
    (fail : ∀ cause, failure (.action state cause)) :
    Keeps here step failure r (o.andThen fun children after =>
      (act c.evaluator state a children, after.leave state entered)) :=
  (inside.andThen fun _ _ _ h => act_keeps h fail).of_step (Run.enter_steps ..) one

end Symbols

section Advance

/-- From a position on nothing happens in front of it. -/
abbrev Advances (p : Nat) {α : Type} (r : Run) (o : Outcome α) : Prop :=
  Keeps (p ≤ ·) (p ≤ ·.position) (fun e => ∀ q, e.position? = some q → p ≤ q) r o

variable {p : Nat}

private theorem le_of_position {q : Nat} {e : ParseError} (h : p ≤ q)
    (he : e.position? = some q) : ∀ q', e.position? = some q' → p ≤ q' := by
  intro q' hq
  rw [he] at hq
  cases hq
  exact h

theorem visitToken_advances {depth : Nat} {name : String} {r : Run} (h : p ≤ r.cursor) :
    Advances p r (c.visitToken stream depth name r) := by
  rcases visitToken_cases c stream depth name r with ⟨t, -, -, taken⟩ | failed
  · rw [taken]
    refine ⟨Nat.le_succ_of_le h, ⟨[_], Run.take_steps .., ?_⟩, ?_⟩
    · intro s hm
      obtain rfl := List.mem_singleton.mp hm
      exact h
    · intro e he
      cases he
  · rw [failed]
    exact .record h rfl h (le_of_position h rfl)

theorem visitState_advances (wf : c.WellFormed) {levels depth : Nat} {state : String} {r : Run}
    (h : p ≤ r.cursor) : Advances p r (c.visitState stream levels depth state r) := by
  induction levels generalizing depth state r with
  | zero => exact .record h rfl h (le_of_position h rfl)
  | succ levels ih =>
      rcases visitState_cases wf stream levels depth state r with
        busy | ⟨-, none⟩ | ⟨index, viaFollow, a, -, -, expand⟩
      · rw [busy]
        exact .record h rfl h (le_of_position h rfl)
      · rw [none]
        exact .record h rfl h (le_of_position h rfl)
      · rw [expand]
        refine expand_keeps (visitSymbols_keeps ?_ ?_ h) h fun _ => nofun
        · exact fun _ _ r h => visitToken_advances h
        · exact fun _ _ r h => ih h

theorem visitSymbols_advances (wf : c.WellFormed) {levels depth depth' : Nat}
    {symbols : List Symbol} {r : Run} (h : p ≤ r.cursor) :
    Advances p r (c.visitSymbols stream depth (c.visitState stream levels depth') symbols r) :=
  visitSymbols_keeps (fun _ _ _ h => visitToken_advances h)
    (fun _ _ _ h => visitState_advances wf h) h

end Advance

section Vanish

/-- Nothing is read at the position, and only what is independent of the token there
can fail. -/
abbrev Vanishes (p : Nat) {α : Type} (r : Run) (o : Outcome α) : Prop :=
  Keeps (· = p) (fun s => s.position = p ∧ s.vanishes = true) (fun e => e.isInner = true) r o

/-- What lets a state vanish in front of a terminal. -/
structure MayVanish (c : Compiled V P) (state : String) (next : Terminal) : Prop where
  nullable : c.first.holds state .epsilon = true
  follows : c.follow.holds state next = true
  apart : ∀ token, next = .token token → ¬c.first.holds state next = true

theorem mayVanish_of_select? (wf : c.WellFormed) {state : String} {next : Terminal} {index : Nat}
    (viaFollow : c.select? state next = some (index, true)) : c.MayVanish state next := by
  obtain ⟨⟨a, ha, nullable⟩, follows, apart⟩ := of_select?_follow wf viaFollow
  exact ⟨holds_of_alternative? wf ha nullable, follows, apart⟩

/-- Symbols that vanish together are states that may vanish each. -/
theorem mayVanish_of_symbols {lhs : String} {next : Terminal} {symbols : List Symbol}
    (followed : Followed c.first c.follow lhs symbols) (follows : c.follow.holds lhs next = true)
    (nullable : .epsilon ∈ (firstOfSequence c.first symbols).1)
    (apart : ∀ token, next = .token token → next ∉ (firstOfSequence c.first symbols).1) :
    (∀ name, .token name ∉ symbols) ∧ ∀ name, .state name ∈ symbols → c.MayVanish name next := by
  induction symbols with
  | nil => exact ⟨nofun, nofun⟩
  | cons y more ih =>
      cases y with
      | token name => simp [firstOfSequence] at nullable
      | epsilon =>
          obtain ⟨tokens, states⟩ := ih followed nullable apart
          exact ⟨by simpa using tokens, by simpa using states⟩
      | state name =>
          obtain ⟨behind, inherited, tail⟩ := followed
          rcases Grammar.mem_firstOfSequence_state.mp nullable with ⟨bad, -⟩ | ⟨here, rest⟩
          · exact absurd rfl bad
          · obtain ⟨tokens, states⟩ := ih tail rest fun token ht hm =>
              apart token ht (Grammar.mem_firstOfSequence_state.mpr (.inr ⟨here, hm⟩))
            have first : c.MayVanish name next := by
              refine ⟨here, inherited rest next follows, fun token ht hn => ?_⟩
              refine apart token ht (Grammar.mem_firstOfSequence_state.mpr (.inl ⟨?_, hn⟩))
              simp [ht]
            refine ⟨by simpa using tokens, fun other hm => ?_⟩
            rcases List.mem_cons.mp hm with same | hm
            · cases same
              exact first
            · exact states other hm

theorem visitState_vanishes (wf : c.WellFormed) {p levels depth : Nat} {state : String}
    {r : Run} (h : r.cursor = p) (may : c.MayVanish state (nextTerminal stream r)) :
    Vanishes p r (c.visitState stream levels depth state r) := by
  induction levels generalizing depth state r with
  | zero => exact .record h rfl ⟨h, rfl⟩ rfl
  | succ levels ih =>
      obtain ⟨i, hi⟩ := exists_select?_follow wf may.nullable may.follows may.apart
      rcases visitState_cases wf stream levels depth state r with
        busy | ⟨hs, -⟩ | ⟨index, viaFollow, a, hs, ha, expand⟩
      · rw [busy]
        exact .record h rfl ⟨h, rfl⟩ rfl
      · rw [hi] at hs
        cases hs
      · rw [expand]
        obtain ⟨rfl, rfl⟩ : i = index ∧ true = viaFollow := by simpa [hi] using hs
        obtain ⟨⟨b, hb, nullable⟩, -, -⟩ := of_select?_follow wf hi
        obtain rfl : a = b := Option.some.inj (ha.symm.trans hb)
        obtain ⟨tokens, states⟩ := mayVanish_of_symbols (followed_of_alternative? wf ha)
          may.follows nullable fun token ht hm =>
            may.apart token ht (holds_of_alternative? wf ha hm)
        refine expand_keeps (visitSymbols_keeps ?_ ?_ h) ⟨h, rfl⟩ fun _ => rfl
        · exact fun name hm => absurd hm (tokens name)
        · intro name hm r₁ h₁
          refine ih h₁ ?_
          rw [nextTerminal_congr (h₁.trans h.symm)]
          exact states name hm

end Vanish

section Take

/-- The first token that is taken is the one ahead, and nothing is unexpected before
that. -/
structure Takes {α : Type} (r : Run) (o : Outcome α) : Prop where
  steps : ∃ new, o.2.steps.toList = r.steps.toList ++ new ∧
    (∀ s, new.find? Step.takes = some s → s.position = r.cursor) ∧
    (∀ s ∈ new, s.rejects = true → r.cursor < s.position) ∧
    ∀ v, o.1 = .ok v → ∃ s, new.find? Step.takes = some s
  cursor : ∀ v, o.1 = .ok v → r.cursor < o.2.cursor
  error : ∀ {position offset found expected},
    o.1 = .error (.unexpected position offset found expected) → r.cursor < position

namespace Takes

variable {α β : Type} {r : Run}

theorem record {depth : Nat} {symbol : String} {action : StepAction} {e : ParseError}
    (inner : e.isInner = true)
    (one : (⟨depth, symbol, r.cursor, r.lookahead stream, action⟩ : Step).vanishes = true) :
    Takes r ((.error e, r.record stream depth symbol action) : Outcome α) := by
  refine ⟨⟨[_], Run.record_steps .., ?_, ?_, nofun⟩, nofun, ?_⟩
  · intro s hs
    obtain rfl := List.mem_singleton.mp (List.mem_of_find?_eq_some hs)
    rfl
  · intro s hm hs
    obtain rfl := List.mem_singleton.mp hm
    cases action <;> simp_all [Step.vanishes, Step.rejects]
  · intro position offset found expected he
    cases he
    cases inner

/-- What comes behind the first token can only happen behind it. -/
theorem andThen {o : Outcome α} {f : α → Run → Outcome β} (h : Takes r o)
    (k : ∀ a r', o = (.ok a, r') → r.cursor + 1 ≤ r'.cursor →
      Advances (r.cursor + 1) r' (f a r')) : Takes r (o.andThen f) := by
  obtain ⟨result, r'⟩ := o
  obtain ⟨before, hb, firstTaken, rejected, taken⟩ := h.steps
  cases result with
  | error e =>
      refine ⟨⟨before, hb, firstTaken, rejected, nofun⟩, nofun, ?_⟩
      intro position offset found expected he
      cases he
      exact h.error rfl
  | ok a =>
      obtain ⟨s, hs⟩ := taken a rfl
      have k := k a r' rfl (h.cursor a rfl)
      obtain ⟨after, ha, each⟩ := k.steps
      have found : (before ++ after).find? Step.takes = some s := by
        rw [List.find?_append, hs, Option.some_or]
      refine ⟨⟨before ++ after, ?_, ?_, ?_, fun _ _ => ⟨s, found⟩⟩, fun _ _ => k.cursor, ?_⟩
      · rw [← List.append_assoc, ← hb]
        exact ha
      · intro t ht
        rw [found] at ht
        cases ht
        exact firstTaken s hs
      · intro t ht hr
        exact (List.mem_append.mp ht).elim (fun hm => rejected t hm hr) (fun hm => each t hm)
      · intro position offset found expected he
        exact k.error _ he position rfl

/-- What vanishes in front of the first token takes nothing and rejects nothing. -/
theorem of_vanishes {o : Outcome α} {f : α → Run → Outcome β} (h : Vanishes r.cursor r o)
    (k : ∀ a r', o = (.ok a, r') → r'.cursor = r.cursor → Takes r' (f a r')) :
    Takes r (o.andThen f) := by
  obtain ⟨result, r'⟩ := o
  obtain ⟨before, hb, each⟩ := h.steps
  have passive : ∀ s ∈ before, s.takes = false ∧ s.rejects = false := by
    intro s hs
    have hv := (each s hs).2
    rw [Step.vanishes] at hv
    rw [Step.takes, Step.rejects]
    cases ha : s.action <;> simp_all
  have none : before.find? Step.takes = none :=
    List.find?_eq_none.mpr fun s hs => by simp [(passive s hs).1]
  cases result with
  | error e =>
      refine ⟨⟨before, hb, ?_, ?_, nofun⟩, nofun, ?_⟩
      · intro s hs
        rw [none] at hs
        cases hs
      · intro s hs hr
        rw [(passive s hs).2] at hr
        cases hr
      · intro position offset found expected he
        cases he
        cases h.error _ rfl
  | ok a =>
      have hc : r'.cursor = r.cursor := h.cursor
      have k := k a r' rfl hc
      obtain ⟨after, ha, firstTaken, rejected, taken⟩ := k.steps
      have found : (before ++ after).find? Step.takes = after.find? Step.takes := by
        rw [List.find?_append, none, Option.none_or]
      refine ⟨⟨before ++ after, ?_, ?_, ?_, ?_⟩, ?_, ?_⟩
      · rw [← List.append_assoc, ← hb]
        exact ha
      · rw [found, ← hc]
        exact firstTaken
      · intro s hs hr
        rcases List.mem_append.mp hs with hs | hs
        · rw [(passive s hs).2] at hr
          cases hr
        · exact hc ▸ rejected s hs hr
      · rw [found]
        exact taken
      · exact fun v hv => hc ▸ k.cursor v hv
      · exact fun he => hc ▸ k.error he

theorem of_enter {depth : Nat} {state : String} {a : Alternative} {viaFollow : Bool}
    {o : Outcome α} (h : Takes (r.enter stream depth state a viaFollow) o) : Takes r o := by
  obtain ⟨new, hn, firstTaken, rejected, taken⟩ := h.steps
  refine ⟨⟨⟨depth, state, r.cursor, r.lookahead stream, .expand a viaFollow⟩ :: new,
    ?_, ?_, ?_, taken⟩, h.cursor, h.error⟩
  · rw [hn, Run.enter_steps, List.append_assoc, List.singleton_append]
  · exact firstTaken
  · intro s hs hr
    rcases List.mem_cons.mp hs with rfl | hs
    · cases hr
    · exact rejected s hs hr

end Takes

theorem visitToken_takes {depth : Nat} {name : String} {r : Run}
    (h : nextTerminal stream r = .token name) :
    Takes r (c.visitToken stream depth name r) := by
  cases hl : r.lookahead stream with
  | none =>
      rw [nextTerminal, hl] at h
      cases h
  | some t =>
      rw [nextTerminal, hl] at h
      cases h
      rw [visitToken_ahead hl]
      refine ⟨⟨[_], Run.take_steps .., ?_, ?_, fun _ _ => ⟨_, rfl⟩⟩, ?_, ?_⟩
      · intro s hs
        obtain rfl := List.mem_singleton.mp (List.mem_of_find?_eq_some hs)
        rfl
      · intro s hm hs
        obtain rfl := List.mem_singleton.mp hm
        cases hs
      · exact fun _ _ => Nat.lt_succ_self _
      · intro position offset found expected he
        cases he

/-- Symbols that can begin with the token ahead take it first: those in front of the one
that begins with it vanish. -/
theorem visitSymbols_takes (wf : c.WellFormed) {levels depth depth' : Nat} {lhs token : String}
    {symbols : List Symbol} {r : Run} (next : nextTerminal stream r = .token token)
    (takes : ∀ name r, nextTerminal stream r = .token token →
      c.first.holds name (.token token) = true →
      Takes r (c.visitState stream levels depth' name r))
    (followed : Followed c.first c.follow lhs symbols)
    (begins : .token token ∈ (firstOfSequence c.first symbols).1) :
    Takes r (c.visitSymbols stream depth (c.visitState stream levels depth') symbols r) := by
  induction symbols generalizing r with
  | nil => simp [firstOfSequence] at begins
  | cons y more ih =>
      cases y with
      | epsilon => exact ih next followed begins
      | token name =>
          obtain rfl : token = name := by simpa [firstOfSequence] using begins
          refine (visitToken_takes next).andThen fun v r₁ _ h₁ => ?_
          exact (visitSymbols_advances wf h₁).andThen fun vs r₂ _ h₂ => .ok h₂ _
      | state name =>
          by_cases here : c.first.holds name (.token token) = true
          · refine (takes name r next here).andThen fun v r₁ _ h₁ => ?_
            exact (visitSymbols_advances wf h₁).andThen fun vs r₂ _ h₂ => .ok h₂ _
          · rcases Grammar.mem_firstOfSequence_state.mp begins with ⟨-, bad⟩ | ⟨nullable, later⟩
            · exact absurd bad here
            -- the token is behind the state, so that it follows it
            · have may : c.MayVanish name (nextTerminal stream r) := by
                rw [next]
                refine ⟨nullable, followed.1 _ later (by simp), fun t ht => ?_⟩
                exact here
              refine Takes.of_vanishes (visitState_vanishes wf rfl may) fun v r₁ _ h₁ => ?_
              have next₁ : nextTerminal stream r₁ = .token token :=
                (nextTerminal_congr h₁).trans next
              refine (ih next₁ followed.2.2 later).andThen fun vs r₂ _ h₂ => ?_
              exact .ok h₂ _

theorem visitState_takes (wf : c.WellFormed) {levels depth : Nat} {state token : String}
    {r : Run} (next : nextTerminal stream r = .token token)
    (begins : c.first.holds state (.token token) = true) :
    Takes r (c.visitState stream levels depth state r) := by
  induction levels generalizing depth state r with
  | zero => exact .record rfl rfl
  | succ levels ih =>
      obtain ⟨i, hi⟩ := exists_select?_table wf begins
      rcases visitState_cases wf stream levels depth state r with
        busy | ⟨hs, -⟩ | ⟨index, viaFollow, a, hs, ha, expand⟩
      · rw [busy]
        exact .record rfl rfl
      · rw [next, hi] at hs
        cases hs
      · rw [expand]
        rw [next, hi] at hs
        cases hs
        obtain ⟨t, b, ht, hb, first⟩ := of_select?_table wf hi
        obtain rfl : a = b := Option.some.inj (ha.symm.trans hb)
        cases ht
        have inside : Takes (r.enter stream depth state a false) (c.visitSymbols stream
            (depth + 1) (c.visitState stream levels (depth + 1)) a.symbols
            (r.enter stream depth state a false)) :=
          visitSymbols_takes wf next (fun name r hn hb => ih hn hb)
            (followed_of_alternative? wf ha) first
        exact .of_enter (inside.andThen fun vs after _ h => act_keeps h fun _ => nofun)

end Take

section Prediction

/-- What a visit is entered for comes true, at any nesting and in any run, and thus for
every visit of a parse. The grammar may have conflicts and the options are any. -/
theorem visitState_prediction {patterns : String → Option Text.Matcher}
    {evaluator : Action.Evaluator V P} {options : Options} {d : Grammar.Declarations}
    (h : ofDeclarations patterns evaluator options d = .ok c) (stream : Stream)
    (levels depth : Nat) (state : String) (r : Run) (index : Nat) :
    (c.select? state (nextTerminal stream r) = some (index, true) →
      Vanishes r.cursor r (c.visitState stream levels depth state r)) ∧
    (c.select? state (nextTerminal stream r) = some (index, false) →
      Takes r (c.visitState stream levels depth state r)) := by
  obtain ⟨wf, -⟩ := ofDeclarations_ok h
  refine ⟨fun viaFollow => ?_, fun viaTable => ?_⟩
  · obtain ⟨⟨a, ha, nullable⟩, follows, apart⟩ := of_select?_follow wf viaFollow
    exact visitState_vanishes wf rfl ⟨holds_of_alternative? wf ha nullable, follows, apart⟩
  · obtain ⟨token, a, next, ha, begins⟩ := of_select?_table wf viaTable
    exact visitState_takes wf next (holds_of_alternative? wf ha begins)

/-- A state that vanishes by states only, one of which can be followed by what it can
begin with. -/
def hidden : Grammar.Declarations where
  tokens := [⟨"b", "b"⟩, ⟨"c", "c"⟩]
  rules := [.ofWords "s" "A b" "x", .ofWords "A" "B B" "y", .ofWords "B" "EPS" "z",
    .ofWords "B" "c" "w"]

theorem visitState_prediction_hidden :
    ∃ c, ofDeclarations Pattern.matcher? Action.outline .standard hidden = .ok c ∧
      (c.select? "A" (.token "b") = some (0, true) ∧
        Vanishes 0 .initial (c.visitState ⟨#[⟨"b", "b", 0⟩], 1⟩ 9 0 "A" .initial)) ∧
      c.select? "A" (.token "c") = some (0, false) ∧
        Takes .initial (c.visitState ⟨#[⟨"c", "c", 0⟩, ⟨"b", "b", 1⟩], 2⟩ 9 0 "A" .initial) := by
  obtain ⟨c, compiled, viaFollow, viaTable⟩ :
      ∃ c, ofDeclarations Pattern.matcher? Action.outline .standard hidden = .ok c ∧
        c.select? "A" (.token "b") = some (0, true) ∧
        c.select? "A" (.token "c") = some (0, false) :=
    ⟨_, rfl, by decide +kernel, by decide +kernel⟩
  refine ⟨c, compiled, ⟨viaFollow, ?_⟩, viaTable, ?_⟩
  · exact (visitState_prediction compiled _ _ _ "A" .initial 0).1 viaFollow
  · exact (visitState_prediction compiled _ _ _ "A" .initial 0).2 viaTable

end Prediction

end Compiled
end PredictiveParsing.Parsing
