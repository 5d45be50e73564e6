import PredictiveParsing.Action.Evaluation
import PredictiveParsing.Proofs.Numeral.OfInt

/-!
Integers are compared as floating-point numbers, so what a comparison tells is the order of the
rounded integers. It is the order of the integers themselves unless they are different and fall
together.
-/
namespace PredictiveParsing.Action

open Numeral

section Orders

variable {x y : Float} {a b : Int}

theorem lt_iff_parts : x < y ↔ (parts x).compare (parts y) = some .lt := by
  show decide (x.toModel < y.toModel) = true ↔ _
  rw [decide_eq_true_iff]
  show ((parts x).compare (parts y) == some .lt) = true ↔ _
  rw [beq_iff_eq]

theorem orderFloats?_of_normal (h : IsNormal (parts x) a) (h' : IsNormal (parts y) b) :
    orderFloats? x y = some (compare a b) := by
  have less : x < y ↔ compare a b = .lt := by
    rw [lt_iff_parts, h.compare h', Option.some.injEq]
  have same : (x == y) = true ↔ compare a b = .eq := by
    show ((parts x).compare (parts y) == some .eq) = true ↔ _
    rw [h.compare h', beq_iff_eq, Option.some.injEq]
  have greater : y < x ↔ compare a b = .gt := by
    rw [lt_iff_parts, h'.compare h, Option.some.injEq, Int.compare_eq_lt, Int.compare_eq_gt]
  rw [orderFloats?]
  match order : compare a b with
  | .lt => rw [if_pos (less.mpr order)]
  | .eq => rw [if_neg (by rw [less, order]; decide), if_pos (same.mpr order)]
  | .gt =>
      rw [if_neg (by rw [less, order]; decide), if_neg (by rw [same, order]; decide),
        if_pos (greater.mpr order)]

theorem natAbs_toInt_le (n : Int64) : n.toInt.natAbs ≤ 2 ^ 63 := by
  have least := n.le_toInt
  have most := n.toInt_lt
  omega

theorem order?_int (m n : Int64) :
    order? (.int m) (.int n) = some (compare (roundedInt m.toInt) (roundedInt n.toInt)) := by
  have inside : ∀ n : Int64, n.toInt.natAbs < 2 ^ 64 :=
    fun n => Nat.lt_of_le_of_lt (natAbs_toInt_le n) (by decide)
  exact orderFloats?_of_normal (isNormal_ofInt (inside m)) (isNormal_ofInt (inside n))

theorem Comparison.apply_int (op : Comparison) (m n : Int64) :
    op.apply (.int m) (.int n) =
      .ok (op.holds (compare (roundedInt m.toInt) (roundedInt n.toInt))) := by
  have order := order?_int m n
  cases op <;> simp only [apply, order]

end Orders

namespace Expr

variable {children : List Value} {locals : Locals} {e f : Expr} {a b : Int64}

theorem eval_compare_int (op : Comparison) (left : e.eval children locals = .ok (.int a))
    (right : f.eval children locals = .ok (.int b)) :
    (Expr.compare op e f).eval children locals =
      .ok (.bool (op.holds (Ord.compare (roundedInt a.toInt) (roundedInt b.toInt)))) := by
  rw [eval, left, right]
  show (op.apply (.int a) (.int b)).bind _ = _
  rw [op.apply_int]
  rfl

/-- Two different integers that fall together are taken for equal. -/
theorem agrees_iff (op : Comparison) (a b : Int) :
    op.holds (Ord.compare (roundedInt a) (roundedInt b)) = op.holds (Ord.compare a b) ↔
      (roundedInt a = roundedInt b → op.holds .eq = op.holds (Ord.compare a b)) := by
  by_cases together : roundedInt a = roundedInt b
  · rw [Int.compare_eq_eq.mpr together]
    exact ⟨fun same _ => same, fun same => same together⟩
  · rw [compare_roundedInt together]
    exact ⟨fun _ _ => absurd ‹_› together, fun _ => rfl⟩

theorem roundedInt_ne_of_far (h : 1024 < (a.toInt - b.toInt).natAbs) :
    roundedInt a.toInt ≠ roundedInt b.toInt := by
  have left := roundedInt_near (natAbs_toInt_le a)
  have right := roundedInt_near (natAbs_toInt_le b)
  omega

/-- A comparison of integers tells how the rounded integers compare. It is right unless the two
are different, fall together and the operator makes a difference between them and equal ones; so
it is right up to 2 ^ 53, and for any integers that are more than 1024 apart. -/
theorem eval_compare_rounded (op : Comparison) (left : e.eval children locals = .ok (.int a))
    (right : f.eval children locals = .ok (.int b)) :
    (Expr.compare op e f).eval children locals =
        .ok (.bool (op.holds (Ord.compare (roundedInt a.toInt) (roundedInt b.toInt)))) ∧
      ((Expr.compare op e f).eval children locals =
          .ok (.bool (op.holds (Ord.compare a.toInt b.toInt))) ↔
        (roundedInt a.toInt = roundedInt b.toInt →
          op.holds .eq = op.holds (Ord.compare a.toInt b.toInt))) ∧
      ((a.toInt.natAbs ≤ 2 ^ 53 ∧ b.toInt.natAbs ≤ 2 ^ 53 ∨
          1024 < (a.toInt - b.toInt).natAbs) →
        (Expr.compare op e f).eval children locals =
          .ok (.bool (op.holds (Ord.compare a.toInt b.toInt)))) := by
  have value := eval_compare_int op left right
  refine ⟨value, ?_, fun near => ?_⟩
  · rw [value, ← agrees_iff, Except.ok.injEq, Value.bool.injEq]
  · rw [value]
    rcases near with ⟨small, small'⟩ | far
    · rw [roundedInt_of_le small, roundedInt_of_le small']
    · rw [compare_roundedInt (roundedInt_ne_of_far far)]

/-- The two greatest integers of 64 bits fall together beyond both of them. -/
theorem eval_compare_rounded_greatest :
    roundedInt 9223372036854775806 = 9223372036854775808 ∧
      roundedInt 9223372036854775807 = 9223372036854775808 ∧
      (Expr.compare .lt (.literal (.int 9223372036854775806)) (.child 0)).eval
        [.int 9223372036854775807] [] = .ok (.bool false) ∧
      (Expr.compare .le (.literal (.int 9223372036854775806)) (.child 0)).eval
        [.int 9223372036854775807] [] = .ok (.bool true) ∧
      (Expr.compare .gt (.child 0) (.literal (.int 9223372036854774000))).eval
        [.int 9223372036854775807] [] = .ok (.bool true) := by
  have literal : ∀ n, (Expr.literal (.int n)).eval [.int 9223372036854775807] [] = .ok (.int n) :=
    fun n => by rw [eval]
  have child : (Expr.child 0).eval [.int 9223372036854775807] [] =
      .ok (.int 9223372036854775807) := by
    rw [eval]
    rfl
  have below : roundedInt 9223372036854775806 = 9223372036854775808 := by decide +kernel
  have greatest : roundedInt 9223372036854775807 = 9223372036854775808 := by decide +kernel
  have less := (eval_compare_rounded .lt (literal 9223372036854775806) child).1
  have lessOrEqual := (eval_compare_rounded .le (literal 9223372036854775806) child).2.1
  have greater := (eval_compare_rounded .gt child (literal 9223372036854774000)).2.2
  refine ⟨below, greatest, ?_, lessOrEqual.mpr fun _ => by decide, greater (.inr (by decide))⟩
  rw [less]
  exact congrArg (fun o => Except.ok (Value.bool (Comparison.lt.holds o)))
    (Int.compare_eq_eq.mpr (below.trans greatest.symm))

/-- Two neighbours are equal for the comparison. -/
theorem eval_compare_neighbours :
    (Expr.compare .eq (.literal (.int 9007199254740993)) (.literal (.int 9007199254740992))).eval
        [] [] = .ok (.bool true) ∧
      (9007199254740993 : Int64) ≠ 9007199254740992 := by
  have literal : ∀ n, (Expr.literal (.int n)).eval [] [] = .ok (.int n) := fun n => by rw [eval]
  have together : roundedInt (9007199254740993 : Int64).toInt =
      roundedInt (9007199254740992 : Int64).toInt := by decide +kernel
  refine ⟨?_, by decide⟩
  rw [eval_compare_int .eq (literal _) (literal _), Int.compare_eq_eq.mpr together]
  rfl

end Expr

end PredictiveParsing.Action
