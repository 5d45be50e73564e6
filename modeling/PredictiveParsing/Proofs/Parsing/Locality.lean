import PredictiveParsing.Proofs.Parsing.Prediction
import PredictiveParsing.Proofs.Parsing.Tokens

/-!
A visit sees no token behind the position at which it ends. Two streams that hold the same
up to that position are visited in the same way, whatever comes behind it.
-/
namespace PredictiveParsing.Parsing

open Grammar (Alternative Symbol Terminal)

variable {V P : Type}

/-- The streams hold the same up to the position and at it. -/
def Stream.Agree (stream stream' : Stream) (position : Nat) : Prop :=
  ∀ i ≤ position, stream'.tokens[i]? = stream.tokens[i]? ∧
    stream'.offsetAt i = stream.offsetAt i

namespace Stream.Agree

variable {stream stream' : Stream} {position : Nat}

theorem mono {position' : Nat} (h : stream.Agree stream' position) (le : position' ≤ position) :
    stream.Agree stream' position' :=
  fun i hi => h i (Nat.le_trans hi le)

theorem lookahead {r : Run} (h : stream.Agree stream' r.cursor) :
    r.lookahead stream' = r.lookahead stream :=
  (h r.cursor (Nat.le_refl _)).1

theorem record {r : Run} (h : stream.Agree stream' r.cursor) (depth : Nat) (symbol : String)
    (action : StepAction) :
    r.record stream' depth symbol action = r.record stream depth symbol action := by
  rw [Run.record, Run.record, h.lookahead]

theorem enter {r : Run} (h : stream.Agree stream' r.cursor) (depth : Nat) (state : String)
    (a : Alternative) (viaFollow : Bool) :
    r.enter stream' depth state a viaFollow = r.enter stream depth state a viaFollow := by
  have here : stream.Agree stream'
      ({ r with active := (state, r.cursor) :: r.active } : Run).cursor := h
  rw [Run.enter, Run.enter, here.record]

end Stream.Agree

/-- The second outcome is the first one, if the streams agree up to where this ends, which
is not in front of the run that it comes from. -/
structure EqIfAgree {α : Type} (stream stream' : Stream) (r : Run) (o o' : Outcome α) : Prop where
  forth : r.cursor ≤ o.2.cursor
  eq : stream.Agree stream' o.2.cursor → o' = o

namespace EqIfAgree

variable {α β : Type} {stream stream' : Stream} {r : Run} {o o' : Outcome α}

theorem refl (forth : r.cursor ≤ o.2.cursor) : EqIfAgree stream stream' r o o :=
  ⟨forth, fun _ => rfl⟩

theorem of_here (forth : r.cursor ≤ o.2.cursor)
    (h : stream.Agree stream' r.cursor → EqIfAgree stream stream' r o o') :
    EqIfAgree stream stream' r o o' :=
  ⟨forth, fun agree => (h (agree.mono forth)).eq agree⟩

theorem of_cursor_eq {r₁ : Run} (h : EqIfAgree stream stream' r₁ o o')
    (same : r₁.cursor = r.cursor) : EqIfAgree stream stream' r o o' :=
  ⟨same ▸ h.forth, h.eq⟩

theorem andThen {f f' : α → Run → Outcome β} (h : EqIfAgree stream stream' r o o')
    (next : ∀ a r, EqIfAgree stream stream' r (f a r) (f' a r)) :
    EqIfAgree stream stream' r (o.andThen f) (o'.andThen f') := by
  obtain ⟨e | a, r'⟩ := o
  · refine ⟨h.forth, fun agree => ?_⟩
    rw [h.eq agree]
    rfl
  · refine ⟨Nat.le_trans h.forth (next a r').forth, fun agree => ?_⟩
    have before : stream.Agree stream' r'.cursor := agree.mono (next a r').forth
    rw [h.eq before]
    exact (next a r').eq agree

end EqIfAgree

namespace Compiled

variable {c : Compiled V P} {stream stream' : Stream}

theorem unexpected_eqIfAgree {α : Type} (depth : Nat) (symbol : String) (expected : Expectation)
    (r : Run) :
    EqIfAgree stream stream' r (unexpected stream depth symbol expected r : Outcome α)
      (unexpected stream' depth symbol expected r) := by
  refine ⟨Nat.le_refl _, fun agree => ?_⟩
  have here : stream.Agree stream' r.cursor := agree
  rw [unexpected_eq, unexpected_eq, here.record, here.lookahead, (here _ (Nat.le_refl _)).2]

theorem visitToken_eqIfAgree (depth : Nat) (name : String) (r : Run) :
    EqIfAgree stream stream' r (c.visitToken stream depth name r)
      (c.visitToken stream' depth name r) := by
  refine .of_here (visitToken_advances (Nat.le_refl _)).cursor fun here => ?_
  simp only [visitToken, here.lookahead, here.record]
  cases r.lookahead stream with
  | none => exact unexpected_eqIfAgree depth name _ r
  | some t =>
      by_cases hn : t.name = name
      · simp only [hn, if_true]
        exact .refl (Nat.le_succ r.cursor)
      · simp only [hn, if_false]
        exact unexpected_eqIfAgree depth name _ r

theorem visitSymbols_eqIfAgree {visit visit' : String → Run → Outcome V}
    (inside : ∀ name r, EqIfAgree stream stream' r (visit name r) (visit' name r))
    (depth : Nat) (symbols : List Symbol) (r : Run) :
    EqIfAgree stream stream' r (c.visitSymbols stream depth visit symbols r)
      (c.visitSymbols stream' depth visit' symbols r) :=
  visitSymbols_lift (EqIfAgree stream stream') (fun _ _ => .refl (Nat.le_refl _)) EqIfAgree.andThen
    (visitToken_eqIfAgree depth) inside symbols r

/-- A visit is the same on every stream that agrees up to where the visit ends. -/
theorem visitState_eqIfAgree (wf : c.WellFormed) (levels depth : Nat) (state : String) (r : Run) :
    EqIfAgree stream stream' r (c.visitState stream levels depth state r)
      (c.visitState stream' levels depth state r) := by
  induction levels generalizing depth state r with
  | zero =>
      refine ⟨Nat.le_refl _, fun agree => ?_⟩
      have here : stream.Agree stream' r.cursor := agree
      rw [visitState, visitState, here.record]
  | succ levels ih =>
      -- no visit ends in front of where it begins, so that the streams agree here
      refine .of_here (visitState_advances wf (Nat.le_refl _)).cursor fun here => ?_
      have next : nextTerminal stream' r = nextTerminal stream r := by
        rw [nextTerminal, nextTerminal, here.lookahead]
      rw [visitState_succ, visitState_succ, here.record]
      split
      · exact .refl (Nat.le_refl _)
      · rcases expand_cases wf stream state r with
          ⟨none, refused⟩ | ⟨index, viaFollow, a, selected, rule, expanded⟩
        · rw [refused, expand_unexpected (next ▸ none)]
          exact (unexpected_eqIfAgree depth state _ _).of_cursor_eq rfl
        · rw [expanded, expand_selected wf (next ▸ selected) rule, here.enter]
          have symbols := visitSymbols_eqIfAgree (c := c) (ih (depth + 1)) (depth + 1) a.symbols
            (r.enter stream depth state a viaFollow)
          exact (symbols.andThen fun _ _ => .refl (Nat.le_refl _)).of_cursor_eq rfl

end Compiled
end PredictiveParsing.Parsing
