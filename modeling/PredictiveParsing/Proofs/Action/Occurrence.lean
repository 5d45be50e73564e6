import PredictiveParsing.Action.Expr

/-!
What occurs in an expression. Arguments of calls are lists of expressions, so that the
induction on expressions is stated here with a hypothesis for each argument. The child indices
that are listed are those of the children that occur.
-/
namespace PredictiveParsing.Action

namespace Expr

/-- Induction on expressions, with the arguments of a call as they are listed. -/
@[elab_as_elim, induction_eliminator]
theorem induction {motive : Expr → Prop} (literal : ∀ v, motive (.literal v))
    (child : ∀ index, motive (.child index)) (var : ∀ name, motive (.var name))
    (neg : ∀ e, motive e → motive (.neg e)) (not : ∀ e, motive e → motive (.not e))
    (arith : ∀ op a b, motive a → motive b → motive (.arith op a b))
    (compare : ∀ op a b, motive a → motive b → motive (.compare op a b))
    (and : ∀ a b, motive a → motive b → motive (.and a b))
    (or : ∀ a b, motive a → motive b → motive (.or a b))
    (cond : ∀ test a b, motive test → motive a → motive b → motive (.cond test a b))
    (call : ∀ function arguments, (∀ e ∈ arguments, motive e) →
      motive (.call function arguments)) (e : Expr) : motive e :=
  @Expr.rec motive (fun es => ∀ e ∈ es, motive e) literal child var neg not arith compare
    and or cond call (fun _ h => absurd h List.not_mem_nil)
    (fun _ _ ih ihs => List.forall_mem_cons.mpr ⟨ih, ihs⟩) e

/-- The expressions that an expression is made of at its first level. -/
def operands : Expr → List Expr
  | .literal _ | .child _ | .var _ => []
  | .neg e | .not e => [e]
  | .arith _ a b | .compare _ a b | .and a b | .or a b => [a, b]
  | .cond test a b => [test, a, b]
  | .call _ arguments => arguments

/-- An expression occurs in itself, and where it occurs in an operand. -/
inductive Occurs (part : Expr) : Expr → Prop where
  | self : Occurs part part
  | inside {e operand : Expr} (mem : operand ∈ e.operands) (h : Occurs part operand) :
      Occurs part e

theorem childIndicesOfList_eq (es : List Expr) :
    childIndicesOfList es = es.flatMap childIndices := by
  induction es with
  | nil => rfl
  | cons e es ih => rw [childIndicesOfList, ih, List.flatMap_cons]

theorem mem_childIndices_of_operand {e operand : Expr} (mem : operand ∈ e.operands) {index : Nat}
    (h : index ∈ operand.childIndices) : index ∈ e.childIndices := by
  cases e with
  | literal _ | child _ | var _ => cases mem
  | neg e | not e =>
      obtain rfl := List.mem_singleton.mp mem
      exact h
  | arith _ a b | compare _ a b | and a b | or a b | cond _ a b =>
      simp only [operands, List.mem_cons, List.not_mem_nil, or_false] at mem
      simp only [childIndices, List.mem_append]
      grind
  | call function arguments =>
      rw [childIndices, childIndicesOfList_eq]
      exact List.mem_flatMap.mpr ⟨operand, mem, h⟩

/-- The indices listed are those of the children that occur. -/
theorem mem_childIndices_iff {e : Expr} {index : Nat} :
    index ∈ e.childIndices ↔ Occurs (.child index) e := by
  constructor
  · intro h
    induction e with
    | literal _ | var _ => cases h
    | child i =>
        obtain rfl := List.mem_singleton.mp h
        exact .self
    | neg e ih | not e ih => exact .inside List.mem_cons_self (ih h)
    | arith _ a b iha ihb | compare _ a b iha ihb | and a b iha ihb | or a b iha ihb =>
        rcases List.mem_append.mp h with h | h
        · exact .inside (by simp [operands]) (iha h)
        · exact .inside (by simp [operands]) (ihb h)
    | cond test a b iht iha ihb =>
        rcases List.mem_append.mp h with h | h
        · rcases List.mem_append.mp h with h | h
          · exact .inside (by simp [operands]) (iht h)
          · exact .inside (by simp [operands]) (iha h)
        · exact .inside (by simp [operands]) (ihb h)
    | call function arguments ih =>
        rw [childIndices, childIndicesOfList_eq] at h
        obtain ⟨e, mem, h⟩ := List.mem_flatMap.mp h
        exact .inside mem (ih e mem h)
  · intro h
    induction h with
    | self => exact List.mem_singleton_self index
    | inside mem _ ih => exact mem_childIndices_of_operand mem ih

end Expr

/-- The child of this index occurs in a statement of the program. -/
def Program.AsksFor (p : Program) (index : Nat) : Prop :=
  ∃ s ∈ p, Expr.Occurs (.child index) s.expr

theorem Program.mem_childIndices_iff {p : Program} {index : Nat} :
    index ∈ p.childIndices ↔ p.AsksFor index := by
  simp only [childIndices, List.mem_flatMap, Expr.mem_childIndices_iff, AsksFor]

end PredictiveParsing.Action
