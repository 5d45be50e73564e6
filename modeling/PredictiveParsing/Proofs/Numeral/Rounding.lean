import Mathlib.Algebra.Group.Nat.Defs

/-!
Rounding to 53 binary digits, to the nearest number that has no more, and to the even one of two
that are equally near. Numbers up to 2 ^ 53 stay as they are and no number passes another one, but
neighbours may fall together.
-/
namespace PredictiveParsing.Numeral

/-- The quotient by a power of two, rounded to the nearest integer or the even one of two. -/
def evenQuotient (m shift : Nat) : Nat :=
  let q := m / 2 ^ shift
  let r := m % 2 ^ shift
  if 2 * r < 2 ^ shift then q
  else if 2 * r = 2 ^ shift then q + q % 2
  else q + 1

/-- The nearest number of at most 53 binary digits with zeros behind them. -/
def rounded (n : Nat) : Nat :=
  evenQuotient n (n.log2 - 52) * 2 ^ (n.log2 - 52)

section Quotient

variable {m m' shift : Nat}

theorem evenQuotient_zero (m : Nat) : evenQuotient m 0 = m := by
  simp [evenQuotient, Nat.mod_one]

theorem le_evenQuotient (m shift : Nat) : m / 2 ^ shift ≤ evenQuotient m shift := by
  rw [evenQuotient]
  grind

theorem evenQuotient_le (m shift : Nat) : evenQuotient m shift ≤ m / 2 ^ shift + 1 := by
  rw [evenQuotient]
  grind

theorem evenQuotient_mono (h : m ≤ m') : evenQuotient m shift ≤ evenQuotient m' shift := by
  have quotient : m / 2 ^ shift ≤ m' / 2 ^ shift := Nat.div_le_div_right h
  by_cases same : m / 2 ^ shift = m' / 2 ^ shift
  · have split := Nat.div_add_mod m (2 ^ shift)
    have split' := Nat.div_add_mod m' (2 ^ shift)
    rw [same] at split
    have remainder : m % 2 ^ shift ≤ m' % 2 ^ shift := by omega
    rw [evenQuotient, evenQuotient, same]
    grind
  · have below := evenQuotient_le m shift
    have above := le_evenQuotient m' shift
    omega

/-- Zeros behind the digits do not matter. -/
theorem evenQuotient_mul (m shift zeros : Nat) :
    evenQuotient (m * 2 ^ zeros) (shift + zeros) = evenQuotient m shift := by
  have positive : 0 < 2 ^ zeros := Nat.two_pow_pos zeros
  have quotient : m * 2 ^ zeros / 2 ^ (shift + zeros) = m / 2 ^ shift := by
    rw [Nat.pow_add, Nat.mul_div_mul_right _ _ positive]
  have remainder : m * 2 ^ zeros % 2 ^ (shift + zeros) = m % 2 ^ shift * 2 ^ zeros := by
    rw [Nat.pow_add, Nat.mul_mod_mul_right]
  have less : 2 * (m % 2 ^ shift * 2 ^ zeros) < 2 ^ (shift + zeros) ↔
      2 * (m % 2 ^ shift) < 2 ^ shift := by
    rw [Nat.pow_add, ← Nat.mul_assoc, Nat.mul_lt_mul_right positive]
  have half : 2 * (m % 2 ^ shift * 2 ^ zeros) = 2 ^ (shift + zeros) ↔
      2 * (m % 2 ^ shift) = 2 ^ shift := by
    rw [Nat.pow_add, ← Nat.mul_assoc, Nat.mul_right_cancel_iff positive]
  rw [evenQuotient, evenQuotient, quotient, remainder]
  simp only [less, half]

theorem evenQuotient_digits (h : m ≠ 0) (inside : shift ≤ m.log2) :
    2 ^ (m.log2 - shift) ≤ evenQuotient m shift ∧
      evenQuotient m shift ≤ 2 ^ (m.log2 + 1 - shift) := by
  have positive : 0 < 2 ^ shift := Nat.two_pow_pos shift
  have least : 2 ^ (m.log2 - shift) ≤ m / 2 ^ shift := by
    rw [Nat.le_div_iff_mul_le positive, ← Nat.pow_add, Nat.sub_add_cancel inside]
    exact Nat.log2_self_le h
  have most : m / 2 ^ shift < 2 ^ (m.log2 + 1 - shift) := by
    rw [Nat.div_lt_iff_lt_mul positive, ← Nat.pow_add, Nat.sub_add_cancel (by omega)]
    exact Nat.lt_log2_self
  exact ⟨Nat.le_trans least (le_evenQuotient m shift), Nat.le_trans (evenQuotient_le m shift) most⟩

/-- What is lost is at most half a unit. -/
theorem evenQuotient_near (m shift : Nat) :
    2 * (evenQuotient m shift * 2 ^ shift) ≤ 2 * m + 2 ^ shift ∧
      2 * m ≤ 2 * (evenQuotient m shift * 2 ^ shift) + 2 ^ shift := by
  have split := Nat.div_add_mod m (2 ^ shift)
  have more : (m / 2 ^ shift + 1) * 2 ^ shift = m / 2 ^ shift * 2 ^ shift + 2 ^ shift :=
    Nat.succ_mul _ _
  have remainder := Nat.mod_lt m (Nat.two_pow_pos shift)
  rw [Nat.mul_comm] at split
  simp only [evenQuotient]
  by_cases less : 2 * (m % 2 ^ shift) < 2 ^ shift
  · rw [if_pos less]
    omega
  · by_cases half : 2 * (m % 2 ^ shift) = 2 ^ shift
    · rw [if_neg less, if_pos half]
      rcases Nat.mod_two_eq_zero_or_one (m / 2 ^ shift) with even | odd
      · rw [even, Nat.add_zero]
        omega
      · rw [odd]
        omega
    · rw [if_neg less, if_neg half]
      omega

end Quotient

section Nearest

variable {m n : Nat}

theorem rounded_zero : rounded 0 = 0 := by
  decide

theorem rounded_of_lt (h : n < 2 ^ 53) : rounded n = n := by
  have fits : n.log2 - 52 = 0 := by
    by_cases zero : n = 0
    · subst zero
      decide
    · have := (Nat.log2_lt zero).mpr h
      omega
  rw [rounded, fits, evenQuotient_zero, Nat.pow_zero, Nat.mul_one]

theorem rounded_of_le (h : n ≤ 2 ^ 53) : rounded n = n := by
  rcases Nat.lt_or_eq_of_le h with less | rfl
  · exact rounded_of_lt less
  · decide +kernel

theorem rounded_near (n : Nat) :
    2 * rounded n ≤ 2 * n + 2 ^ (n.log2 - 52) ∧ 2 * n ≤ 2 * rounded n + 2 ^ (n.log2 - 52) :=
  evenQuotient_near n (n.log2 - 52)

/-- Rounding goes neither below the power of two that begins the number nor beyond the next one. -/
theorem two_pow_log2_le_rounded (h : n ≠ 0) : 2 ^ n.log2 ≤ rounded n := by
  have below := (evenQuotient_digits h (Nat.sub_le n.log2 52)).1
  calc 2 ^ n.log2 = 2 ^ (n.log2 - (n.log2 - 52)) * 2 ^ (n.log2 - 52) := by
        rw [← Nat.pow_add, Nat.sub_add_cancel (Nat.sub_le _ _)]
    _ ≤ rounded n := Nat.mul_le_mul_right _ below

theorem rounded_le_two_pow (h : n ≠ 0) : rounded n ≤ 2 ^ (n.log2 + 1) := by
  have above := (evenQuotient_digits h (Nat.sub_le n.log2 52)).2
  calc rounded n ≤ 2 ^ (n.log2 + 1 - (n.log2 - 52)) * 2 ^ (n.log2 - 52) :=
        Nat.mul_le_mul_right _ above
    _ = 2 ^ (n.log2 + 1) := by rw [← Nat.pow_add, Nat.sub_add_cancel (by omega)]

theorem rounded_mono (h : m ≤ n) : rounded m ≤ rounded n := by
  by_cases zero : m = 0
  · subst zero
    rw [rounded_zero]
    exact Nat.zero_le _
  have behind : n ≠ 0 := by omega
  have begins : m.log2 ≤ n.log2 :=
    (Nat.le_log2 behind).mpr (Nat.le_trans (Nat.log2_self_le zero) h)
  -- a power of two stands between them, or both lose the same digits
  rcases Nat.lt_or_eq_of_le begins with less | same
  · calc rounded m ≤ 2 ^ (m.log2 + 1) := rounded_le_two_pow zero
      _ ≤ 2 ^ n.log2 := Nat.pow_le_pow_right (by decide) less
      _ ≤ rounded n := two_pow_log2_le_rounded behind
  · rw [rounded, rounded, same]
    exact Nat.mul_le_mul_right _ (evenQuotient_mono h)

end Nearest

/-- Rounding of either sign. -/
def roundedInt : Int → Int
  | .ofNat n => rounded n
  | .negSucc n => -(rounded (n + 1) : Int)

section Integers

variable {a b : Int}

theorem roundedInt_of_le (h : a.natAbs ≤ 2 ^ 53) : roundedInt a = a := by
  match a with
  | .ofNat n => exact congrArg Int.ofNat (rounded_of_le h)
  | .negSucc n =>
      have magnitude : rounded (n + 1) = n + 1 := rounded_of_le h
      rw [roundedInt, magnitude]
      rfl

theorem roundedInt_near (h : a.natAbs ≤ 2 ^ 63) : (roundedInt a - a).natAbs ≤ 512 := by
  have near : ∀ n ≤ 2 ^ 63, ((rounded n : Int) - n).natAbs ≤ 512 := by
    intro n le
    rcases Nat.lt_or_eq_of_le le with less | rfl
    · have digits : n.log2 - 52 ≤ 10 := by
        by_cases zero : n = 0
        · subst zero
          decide
        · have := (Nat.log2_lt zero).mpr less
          omega
      have unit : 2 ^ (n.log2 - 52) ≤ 2 ^ 10 := Nat.pow_le_pow_right (by decide) digits
      have half := rounded_near n
      omega
    · decide +kernel
  match a with
  | .ofNat n => exact near n h
  | .negSucc n =>
      have magnitude := near (n + 1) h
      rw [roundedInt, Int.negSucc_eq]
      omega

theorem roundedInt_mono (h : a ≤ b) : roundedInt a ≤ roundedInt b := by
  match a, b with
  | .ofNat m, .ofNat n => exact Int.ofNat_le.mpr (rounded_mono (Int.ofNat_le.mp h))
  | .ofNat m, .negSucc n => exact absurd h (by simp; omega)
  | .negSucc m, .ofNat n =>
      rw [roundedInt, roundedInt]
      omega
  | .negSucc m, .negSucc n =>
      have order : rounded (n + 1) ≤ rounded (m + 1) := rounded_mono (by omega)
      rw [roundedInt, roundedInt]
      omega

/-- Where two numbers do not fall together they keep their order. -/
theorem compare_roundedInt (h : roundedInt a ≠ roundedInt b) :
    compare (roundedInt a) (roundedInt b) = compare a b := by
  rcases Int.lt_trichotomy a b with less | rfl | greater
  · have order := roundedInt_mono (Int.le_of_lt less)
    rw [Int.compare_eq_lt.mpr less, Int.compare_eq_lt.mpr (by omega)]
  · exact absurd rfl h
  · have order := roundedInt_mono (Int.le_of_lt greater)
    rw [Int.compare_eq_gt.mpr greater, Int.compare_eq_gt.mpr (by omega)]

end Integers

end PredictiveParsing.Numeral
