import PredictiveParsing.Proofs.Parsing.Visit

/-!
Another limit on the depth. Visits of symbols and expansions carry over what is known of
the visits inside, that they are the same unless they fail in a certain way. A visit with
more levels is thus the same as one that does not run out of them.
-/
namespace PredictiveParsing.Parsing

open Grammar (Alternative Symbol Terminal)

variable {V P : Type}

def ParseError.IsRecursionLimit (limit : Nat) (e : ParseError) : Prop :=
  ∃ position, e = .recursionLimit position limit

/-- The outcomes are the same, unless the first one is a failure of this kind. -/
def EqUnless {α : Type} (kind : ParseError → Prop) (o o' : Outcome α) : Prop :=
  (∃ e, o.1 = .error e ∧ kind e) ∨ o = o'

namespace EqUnless

variable {α β : Type} {kind : ParseError → Prop} {o o' : Outcome α}

theorem refl (kind : ParseError → Prop) (o : Outcome α) : EqUnless kind o o :=
  .inr rfl

theorem eq (h : EqUnless kind o o') (other : ∀ e, o.1 = .error e → ¬kind e) : o' = o := by
  rcases h with ⟨e, he, failed⟩ | same
  · exact absurd failed (other e he)
  · exact same.symm

theorem andThen {f f' : α → Run → Outcome β} (h : EqUnless kind o o')
    (next : ∀ a r, EqUnless kind (f a r) (f' a r)) :
    EqUnless kind (o.andThen f) (o'.andThen f') := by
  rcases h with ⟨e, he, failed⟩ | rfl
  · obtain ⟨result, r⟩ := o
    cases he
    exact .inl ⟨e, rfl, failed⟩
  · obtain ⟨e | a, r⟩ := o
    · exact .refl kind _
    · exact next a r

end EqUnless

namespace Compiled

variable {c : Compiled V P} {stream : Stream}

section Inside

variable {kind : ParseError → Prop} {visit visit' : String → Run → Outcome V}

theorem visitSymbols_eqUnless (c : Compiled V P) (stream : Stream)
    (inside : ∀ name r, EqUnless kind (visit name r) (visit' name r))
    (depth : Nat) (symbols : List Symbol) (r : Run) :
    EqUnless kind (c.visitSymbols stream depth visit symbols r)
      (c.visitSymbols stream depth visit' symbols r) :=
  visitSymbols_lift (fun _ o o' => EqUnless kind o o') (fun _ _ => .refl kind _) EqUnless.andThen
    (fun _ _ => .refl kind _) inside symbols r

theorem expand_eqUnless (wf : c.WellFormed)
    (inside : ∀ name r, EqUnless kind (visit name r) (visit' name r))
    (depth : Nat) (state : String) (r : Run) :
    EqUnless kind (c.expand stream depth visit state r) (c.expand stream depth visit' state r) := by
  rcases expand_cases wf stream state r with ⟨-, refused⟩ | ⟨_, _, a, -, -, expanded⟩
  · rw [refused, refused]
    exact .refl kind _
  · rw [expanded, expanded]
    exact (visitSymbols_eqUnless c stream inside (depth + 1) a.symbols _).andThen
      fun _ _ => .refl kind _

end Inside

def withMaxDepth (c : Compiled V P) (limit : Nat) : Compiled V P :=
  { c with options := { c.options with maxDepth := limit } }

theorem WellFormed.withMaxDepth (wf : c.WellFormed) (limit : Nat) :
    (c.withMaxDepth limit).WellFormed :=
  ⟨wf.grammar, wf.first_eq, wf.follow_eq, wf.table_eq, wf.rules_eq⟩

theorem ofDeclarations_withMaxDepth {patterns : String → Option Text.Matcher}
    {evaluator : Action.Evaluator V P} {options : Options} {d : Grammar.Declarations}
    (h : ofDeclarations patterns evaluator options d = .ok c) (limit : Nat) :
    ofDeclarations patterns evaluator { options with maxDepth := limit } d =
      .ok (c.withMaxDepth limit) := by
  have same : prepareState evaluator { options with maxDepth := limit } =
      prepareState evaluator options := rfl
  obtain ⟨g, resolved, h⟩ := exists_of_bind_ok h
  obtain ⟨_, structured, h⟩ := exists_of_bind_ok h
  rw [ofDeclarations, resolved]
  change ofGrammar evaluator { options with maxDepth := limit } g = _
  rw [ofGrammar, structured, same]
  dsimp only at h ⊢
  by_cases strict : options.rejectOverlap = true
  · rw [if_pos strict] at h ⊢
    obtain ⟨_, apart, h⟩ := exists_of_bind_ok h
    obtain ⟨rules, prepared, h⟩ := exists_of_bind_ok h
    cases h
    rw [apart, prepared]
    rfl
  · rw [if_neg strict] at h ⊢
    obtain ⟨rules, prepared, h⟩ := exists_of_bind_ok h
    cases h
    rw [prepared]
    rfl

theorem expand_withMaxDepth (limit depth : Nat) (visit : String → Run → Outcome V)
    (state : String) (r : Run) :
    (c.withMaxDepth limit).expand stream depth visit state r =
      c.expand stream depth visit state r := by
  have same : (c.withMaxDepth limit).evaluator = c.evaluator := rfl
  simp only [expand, visitSymbols_congr same]
  rfl

/-- With more levels and another limit a visit is the same, unless levels ran out. -/
theorem visitState_eqUnless (wf : c.WellFormed) (limit : Nat) {levels more : Nat}
    (enough : levels ≤ more) (depth : Nat) (state : String) (r : Run) :
    EqUnless (ParseError.IsRecursionLimit c.options.maxDepth)
      (c.visitState stream levels depth state r)
      ((c.withMaxDepth limit).visitState stream more depth state r) := by
  induction levels generalizing more depth state r with
  | zero => exact .inl ⟨_, rfl, _, rfl⟩
  | succ levels ih =>
      obtain ⟨more, rfl⟩ : ∃ m, more = m + 1 := ⟨more - 1, by omega⟩
      rw [visitState_succ, visitState_succ, expand_withMaxDepth]
      split
      · exact .refl _ _
      · exact expand_eqUnless wf (ih (by omega) (depth + 1)) depth state r

theorem parseStream_eqUnless (wf : c.WellFormed) {limit : Nat}
    (higher : c.options.maxDepth ≤ limit) (stream : Stream) :
    EqUnless (ParseError.IsRecursionLimit c.options.maxDepth) (c.parseStream stream)
      ((c.withMaxDepth limit).parseStream stream) :=
  (visitState_eqUnless wf limit (Nat.succ_le_succ higher) 0 Grammar.startName .initial).andThen
    fun _ _ => .refl _ _

end Compiled
end PredictiveParsing.Parsing
