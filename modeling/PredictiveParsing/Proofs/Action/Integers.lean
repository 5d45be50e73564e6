import PredictiveParsing.Action.Evaluation

/-!
Arithmetic on integers is exact, or an error. An expression in integers has a value among all
integers, and operations that lead to it, listed in the order in which they are done. The
evaluation gives that value if 64 bits are enough for every operation, and fails with the first
one that divides by zero or for which they are not.
-/
namespace PredictiveParsing.Action

/-- An expression in integers: literals, children with integers as their values, the sign and
the arithmetic operators. -/
inductive Expr.IsIntegral (children : List Value) : Expr → Prop where
  | literal (n : Int64) : IsIntegral children (.literal (.int n))
  | child {index : Nat} {n : Int64} (value : children[index]? = some (.int n)) :
      IsIntegral children (.child index)
  | neg {e : Expr} (inside : IsIntegral children e) : IsIntegral children (.neg e)
  | arith (op : Arithmetic) {a b : Expr} (left : IsIntegral children a)
      (right : IsIntegral children b) : IsIntegral children (.arith op a b)

/-- The operators among all integers; division and remainder truncate. -/
def Arithmetic.exact (op : Arithmetic) (x y : Int) : Int :=
  match op with
  | add => x + y
  | sub => x - y
  | mul => x * y
  | div => x.tdiv y
  | rem => x.tmod y

/-- An operation among all integers, with its operands. -/
inductive Operation where
  | neg (x : Int)
  | arith (op : Arithmetic) (x y : Int)
deriving DecidableEq

/-- A number of 64 bits. -/
def Fits (n : Int) : Prop :=
  -0x8000000000000000 ≤ n ∧ n < 0x8000000000000000

instance (n : Int) : Decidable (Fits n) :=
  inferInstanceAs (Decidable (_ ∧ _))

namespace Operation

def result : Operation → Int
  | neg x => -x
  | arith op x y => op.exact x y

def DividesByZero : Operation → Prop
  | arith .div _ y | arith .rem _ y => y = 0
  | _ => False

instance : DecidablePred DividesByZero
  | arith .div _ y | arith .rem _ y => inferInstanceAs (Decidable (y = 0))
  | arith .add _ _ | arith .sub _ _ | arith .mul _ _ | neg _ => inferInstanceAs (Decidable False)

/-- An operation that is refused: it divides by zero, its result has more than 64 bits, or it is
the one remainder that has no quotient of 64 bits. -/
def Fails (o : Operation) : Prop :=
  o.DividesByZero ∨ ¬Fits o.result ∨ o = arith .rem (-0x8000000000000000) (-1)

instance : DecidablePred Fails := fun _ =>
  inferInstanceAs (Decidable (_ ∨ _ ∨ _))

/-- The error of an operation that is refused. -/
def fault (o : Operation) : ActionError :=
  if o.DividesByZero then .divisionByZero else .overflow

/-- The operation as it is evaluated. -/
def run : Operation → Except ActionError Value
  | neg x => exactly (-x)
  | arith op x y => op.onIntegers x y

end Operation

/-- The value of an expression among all integers. -/
def Expr.exact (children : List Value) : Expr → Int
  | .literal (.int n) => n.toInt
  | .child index =>
    match children[index]? with
    | some (.int n) => n.toInt
    | _ => 0
  | .neg e => -e.exact children
  | .arith op a b => op.exact (a.exact children) (b.exact children)
  | _ => 0

/-- The operations of an expression, those of the operands before the one on them and those of
the left operand first. -/
def Expr.operations (children : List Value) : Expr → List Operation
  | .neg e => e.operations children ++ [.neg (e.exact children)]
  | .arith op a b =>
    a.operations children ++ b.operations children ++
      [.arith op (a.exact children) (b.exact children)]
  | _ => []

section Exactly

open Numeral (int64?)

variable {n : Int}

theorem int64?_of_fits (h : Fits n) : ∃ v, int64? n = some v ∧ v.toInt = n := by
  unfold Fits at h
  refine ⟨Int64.ofInt n, ?_, Int64.toInt_ofInt_of_le h.1 h.2⟩
  rw [int64?, if_pos h]

theorem int64?_eq_none (h : ¬Fits n) : int64? n = none := by
  unfold Fits at h
  rw [int64?, if_neg h]

theorem exactly_of_fits (h : Fits n) : ∃ v, exactly n = .ok (.int v) ∧ v.toInt = n := by
  obtain ⟨v, some, same⟩ := int64?_of_fits h
  exact ⟨v, by rw [exactly, some], same⟩

theorem exactly_of_not_fits (h : ¬Fits n) : exactly n = .error .overflow := by
  rw [exactly, int64?_eq_none h]

theorem fits_toInt (v : Int64) : Fits v.toInt :=
  ⟨v.le_toInt, v.toInt_lt⟩

end Exactly

section Quotient

variable {x y : Int}

/-- Of the quotients of numbers of 64 bits one has more. -/
theorem fits_tdiv_iff (hx : Fits x) :
    Fits (x.tdiv y) ↔ ¬(x = -0x8000000000000000 ∧ y = -1) := by
  constructor
  · rintro fits ⟨rfl, rfl⟩
    exact absurd fits (by decide)
  · intro other
    unfold Fits at hx ⊢
    by_cases minus : y = -1
    · subst minus
      rw [Int.tdiv_neg, Int.tdiv_one]
      omega
    by_cases one : y = 1
    · subst one
      rwa [Int.tdiv_one]
    have magnitude : (x.tdiv y).natAbs = x.natAbs / y.natAbs := Int.natAbs_tdiv x y
    -- any other divisor halves the magnitude at least, and zero leaves none
    have small : x.natAbs / y.natAbs ≤ x.natAbs / 2 := by
      by_cases zero : y = 0
      · simp [zero]
      · exact Nat.div_le_div_left (by omega) (by decide)
    omega

end Quotient

namespace Operation

/-- The operands have 64 bits. -/
def OnWords : Operation → Prop
  | neg x => Fits x
  | arith _ x y => Fits x ∧ Fits y

/-- The operation gives its result, unless it is refused. -/
def IsExact (o : Operation) : Prop :=
  (¬o.Fails ∧ ∃ v, o.run = .ok (.int v) ∧ v.toInt = o.result) ∨
    (o.Fails ∧ o.run = .error o.fault)

variable {o : Operation}

theorem isExact_of_divides (h : o.DividesByZero) (run : o.run = .error .divisionByZero) :
    o.IsExact := by
  refine .inr ⟨.inl h, ?_⟩
  rw [run, fault, if_pos h]

theorem isExact_of_exactly (divides : ¬o.DividesByZero)
    (other : o ≠ arith .rem (-0x8000000000000000) (-1)) (run : o.run = exactly o.result) :
    o.IsExact := by
  rw [IsExact, run, fault, if_neg divides]
  by_cases fits : Fits o.result
  · refine .inl ⟨?_, exactly_of_fits fits⟩
    rintro (zero | big | same)
    · exact divides zero
    · exact big fits
    · exact other same
  · exact .inr ⟨.inr (.inl fits), exactly_of_not_fits fits⟩

theorem isExact_div (x y : Int) : (arith .div x y).IsExact := by
  by_cases zero : y = 0
  · apply isExact_of_divides (o := arith .div x y) zero
    rw [run, Arithmetic.onIntegers, if_pos zero]
  · apply isExact_of_exactly (o := arith .div x y) zero (by simp)
    rw [run, Arithmetic.onIntegers, if_neg zero]
    rfl

/-- The remainder is refused where the quotient has more than 64 bits, although zero would be
its result. -/
theorem isExact_rem {x y : Int} (hx : Fits x) : (arith .rem x y).IsExact := by
  by_cases zero : y = 0
  · apply isExact_of_divides (o := arith .rem x y) zero
    rw [run, Arithmetic.onIntegers, if_pos zero]
  · by_cases quotient : Fits (x.tdiv y)
    · apply isExact_of_exactly (o := arith .rem x y) zero
      · intro same
        cases same
        exact (fits_tdiv_iff hx).mp quotient ⟨rfl, rfl⟩
      · obtain ⟨v, found, -⟩ := int64?_of_fits quotient
        rw [run, Arithmetic.onIntegers, if_neg zero, found]
        rfl
    · have least : x = -0x8000000000000000 ∧ y = -1 := by
        by_cases h : x = -0x8000000000000000 ∧ y = -1
        · exact h
        · exact absurd ((fits_tdiv_iff hx).mpr h) quotient
      obtain ⟨rfl, rfl⟩ := least
      exact .inr ⟨.inr (.inr rfl), rfl⟩

theorem OnWords.isExact (h : o.OnWords) : o.IsExact := by
  cases o with
  | neg x => exact isExact_of_exactly (fun divides => divides) (by simp) rfl
  | arith op x y =>
      cases op with
      | add | sub | mul => exact isExact_of_exactly (fun divides => divides) (by simp) rfl
      | div => exact isExact_div x y
      | rem => exact isExact_rem h.1

end Operation

/-- A result that comes from the operations, done in this order: the number if none of them is
refused, and otherwise the error of the first that is. -/
def ComesFrom (operations : List Operation) (n : Int) (r : Except ActionError Value) : Prop :=
  match operations.find? fun o => decide o.Fails with
  | none => ∃ v, r = .ok (.int v) ∧ v.toInt = n
  | some o => r = .error o.fault

namespace ComesFrom

variable {operations more : List Operation} {n m : Int} {r : Except ActionError Value}
  {f : Value → Except ActionError Value}

theorem int (v : Int64) : ComesFrom [] v.toInt (.ok (.int v)) :=
  ⟨v, rfl, rfl⟩

theorem run {o : Operation} (words : o.OnWords) : ComesFrom [o] o.result o.run := by
  rcases words.isExact with ⟨fits, exact⟩ | ⟨fails, refused⟩
  · simpa [ComesFrom, fits] using exact
  · simpa [ComesFrom, fails] using refused

theorem bind (h : ComesFrom operations n r)
    (next : ∀ v : Int64, v.toInt = n → ComesFrom more m (f (.int v))) :
    ComesFrom (operations ++ more) m (r >>= f) := by
  rw [ComesFrom, List.find?_append]
  rw [ComesFrom] at h
  cases first : operations.find? fun o => decide o.Fails with
  | none =>
      rw [first] at h
      obtain ⟨v, rfl, same⟩ := h
      exact next v same
  | some o =>
      rw [first] at h
      subst h
      rfl

/-- The value is the one that the operations decide on, of no other kind and never wrapped. -/
theorem eq_ok_iff (h : ComesFrom operations n r) (v : Int64) :
    r = .ok (.int v) ↔ (∀ o ∈ operations, ¬o.Fails) ∧ v.toInt = n := by
  rw [ComesFrom] at h
  cases first : operations.find? fun o => decide o.Fails with
  | none =>
      have fit : ∀ o ∈ operations, ¬o.Fails := by simpa using first
      rw [first] at h
      obtain ⟨w, rfl, rfl⟩ := h
      simp only [Except.ok.injEq, Value.int.injEq, Int64.toInt_inj]
      exact ⟨fun same => ⟨fit, same.symm⟩, fun both => both.2.symm⟩
  | some o =>
      have fails : o.Fails := by simpa using List.find?_some first
      rw [first] at h
      subst h
      constructor
      · intro other
        cases other
      · intro both
        exact absurd fails (both.1 o (List.mem_of_find?_eq_some first))

theorem eq_error {o : Operation} (h : ComesFrom operations n r)
    (first : (operations.find? fun o => decide o.Fails) = some o) : r = .error o.fault := by
  rwa [ComesFrom, first] at h

theorem ok_or_error (h : ComesFrom operations n r) :
    (∃ v, r = .ok (.int v)) ∨ ∃ o, (operations.find? fun o => decide o.Fails) = some o := by
  rw [ComesFrom] at h
  cases first : operations.find? fun o => decide o.Fails with
  | none =>
      rw [first] at h
      obtain ⟨v, ok, -⟩ := h
      exact .inl ⟨v, ok⟩
  | some o => exact .inr ⟨o, rfl⟩

end ComesFrom

theorem Arithmetic.apply_int (op : Arithmetic) (m n : Int64) :
    op.apply (.int m) (.int n) = op.onIntegers m.toInt n.toInt := by
  cases op <;> rfl

namespace Expr

variable {children : List Value} {e : Expr}

theorem IsIntegral.comesFrom (h : e.IsIntegral children) (locals : Locals) :
    ComesFrom (e.operations children) (e.exact children) (e.eval children locals) := by
  induction h with
  | literal n =>
      rw [eval]
      exact .int n
  | @child index n value =>
      rw [operations, exact, eval, value]
      · exact .int n
      all_goals simp
  | @neg e inside ih =>
      rw [operations, exact, eval]
      apply ih.bind
      rintro v same
      rw [← same]
      exact ComesFrom.run (o := .neg v.toInt) (fits_toInt v)
  | @arith op a b left right iha ihb =>
      rw [operations, exact, eval, List.append_assoc]
      apply iha.bind
      intro v same
      apply ihb.bind
      intro w same'
      rw [← same, ← same', Arithmetic.apply_int]
      exact ComesFrom.run (o := .arith op v.toInt w.toInt) ⟨fits_toInt v, fits_toInt w⟩

/-- An expression in integers is evaluated exactly or fails. It has an integer for its value if
and only if no operation is refused, and that is its value among all integers; otherwise it
fails as the first operation that is refused does. -/
theorem eval_integral (h : e.IsIntegral children) (locals : Locals) :
    (∀ v : Int64, e.eval children locals = .ok (.int v) ↔
      (∀ o ∈ e.operations children, ¬o.Fails) ∧ v.toInt = e.exact children) ∧
    (∀ o, ((e.operations children).find? fun o => decide o.Fails) = some o →
      e.eval children locals =
        .error (if o.DividesByZero then .divisionByZero else .overflow)) ∧
    ((∃ v, e.eval children locals = .ok (.int v)) ∨
      ∃ o, ((e.operations children).find? fun o => decide o.Fails) = some o) :=
  ⟨(h.comesFrom locals).eq_ok_iff, fun _ first => (h.comesFrom locals).eq_error first,
    (h.comesFrom locals).ok_or_error⟩

/-- A remainder whose quotient has more than 64 bits, in front of a division by zero. -/
def refusedTwice : Expr :=
  .arith .add (.arith .rem (.child 0) (.neg (.literal (.int 1))))
    (.arith .div (.literal (.int 7)) (.literal (.int 0)))

theorem eval_integral_refusedTwice :
    refusedTwice.IsIntegral [.int Int64.minValue] ∧
      refusedTwice.operations [.int Int64.minValue] =
        [.neg 1, .arith .rem (-0x8000000000000000) (-1), .arith .div 7 0, .arith .add 0 0] ∧
      refusedTwice.eval [.int Int64.minValue] [] = .error .overflow := by
  have integral : refusedTwice.IsIntegral [.int Int64.minValue] :=
    .arith _ (.arith _ (.child rfl) (.neg (.literal 1))) (.arith _ (.literal 7) (.literal 0))
  have operations : refusedTwice.operations [.int Int64.minValue] =
      [.neg 1, .arith .rem (-0x8000000000000000) (-1), .arith .div 7 0, .arith .add 0 0] := by
    decide +kernel
  refine ⟨integral, operations, ?_⟩
  apply (eval_integral integral []).2.1 (.arith .rem (-0x8000000000000000) (-1))
  rw [operations]
  decide

end Expr

end PredictiveParsing.Action
