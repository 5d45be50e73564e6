import Mathlib
import PredictiveParsing.Proofs.Numeral.Rounding

/-!
The floating-point number of an integer. It stands for the integer rounded to 53 binary digits,
and numbers that stand for integers are ordered as these are.
-/
namespace PredictiveParsing.Numeral

open Float.Model Float.Model.UnpackedFloat

section Shifts

variable {em : ExtendedMantissa} {m shift : Nat}

/-- What is kept of a mantissa: the quotient by a power of two, whether the remainder comes to
half of it, and whether there is anything besides. -/
structure Keeps (em : ExtendedMantissa) (m shift : Nat) : Prop where
  quotient : em.mantissa = m / 2 ^ shift
  half : em.roundBit = true ↔ 2 ^ shift ≤ 2 * (m % 2 ^ shift)
  besides : em.stickyBit = true ↔ m % 2 ^ shift ≠ 0 ∧ 2 * (m % 2 ^ shift) ≠ 2 ^ shift

theorem Keeps.shiftRightOne (h : Keeps em m shift) : Keeps em.shiftRightOne m (shift + 1) := by
  have positive : 0 < 2 ^ shift := Nat.two_pow_pos shift
  have less : m % 2 ^ shift < 2 ^ shift := Nat.mod_lt m positive
  have double : 2 ^ (shift + 1) = 2 ^ shift * 2 := Nat.pow_succ 2 shift
  have split : m % 2 ^ (shift + 1) = m % 2 ^ shift + 2 ^ shift * (m / 2 ^ shift % 2) := by
    rw [double, Nat.mod_mul]
  constructor
  · rw [ExtendedMantissa.shiftRightOne, h.quotient, Nat.div_div_eq_div_mul, ← double]
  · rcases Nat.mod_two_eq_zero_or_one (m / 2 ^ shift) with even | odd
    · rw [even] at split
      simp [ExtendedMantissa.shiftRightOne, h.quotient, even]
      omega
    · rw [odd] at split
      simp [ExtendedMantissa.shiftRightOne, h.quotient, odd]
      omega
  · simp only [ExtendedMantissa.shiftRightOne, Bool.or_eq_true, h.half, h.besides]
    rcases Nat.mod_two_eq_zero_or_one (m / 2 ^ shift) with even | odd
    · rw [even] at split
      omega
    · rw [odd] at split
      omega

theorem keeps_shifted (m shift : Nat) :
    Keeps (ExtendedMantissa.mk m false false >>> shift) m shift := by
  induction shift with
  | zero =>
      have whole : ExtendedMantissa.mk m false false >>> 0 = ⟨m, false, false⟩ := rfl
      rw [whole]
      constructor <;> simp [Nat.mod_one]
  | succ shift ih => exact ih.shiftRightOne

theorem Keeps.roundedMantissa (h : Keeps em m shift) :
    em.roundedMantissa = evenQuotient m shift := by
  obtain ⟨quotient, half, besides⟩ := em
  obtain ⟨same, rounds, sticks⟩ := h
  simp only at same rounds sticks
  simp only [evenQuotient, ← same]
  cases half <;> cases besides <;>
    simp only [ExtendedMantissa.roundedMantissa, ExtendedMantissa.accuracy,
      Accuracy.roundToNearestEven] <;> grind

end Shifts

/-- The parts of a number that stands for an integer: a mantissa of 53 binary digits and the
exponent that goes with it. -/
inductive IsNormal : UnpackedFloat → Int → Prop
  | zero (s : Sign) : IsNormal (.zero s) 0
  | finite (s : Sign) {m k v : Nat} (positive : 0 < m) (least : 2 ^ 52 ≤ m) (most : m < 2 ^ 53)
      (range : k ≤ 1023) (value : m * 2 ^ k = v * 2 ^ 52) :
      IsNormal (.finite s m (k - 52) positive) (s.apply v)

section Rounding

variable {m k v : Nat} {e : Int}

theorem log2_eq_of_normal (least : 2 ^ 52 ≤ m) (most : m < 2 ^ 53) : m.log2 = 52 :=
  (Nat.log2_eq_iff (by omega)).mpr ⟨least, most⟩

theorem log2_mul_two_pow {zeros : Nat} (h : m ≠ 0) : (m * 2 ^ zeros).log2 = m.log2 + zeros := by
  have positive : 0 < 2 ^ zeros := Nat.two_pow_pos zeros
  have nonzero : m * 2 ^ zeros ≠ 0 := Nat.mul_ne_zero h (Nat.ne_of_gt positive)
  refine (Nat.log2_eq_iff nonzero).mpr ⟨?_, ?_⟩
  · rw [Nat.pow_add]
    exact Nat.mul_le_mul_right _ (Nat.log2_self_le h)
  · rw [Nat.add_right_comm, Nat.pow_add]
    exact (Nat.mul_lt_mul_right positive).mpr Nat.lt_log2_self

theorem keeps_toTarget (large : 52 ≤ m.log2) (inside : -1074 ≤ e) :
    ∃ em, shiftToTargetExponent .binary64 m e .exact = (em, e + (m.log2 - 52 : Nat)) ∧
      Keeps em m (m.log2 - 52) := by
  have target : Format.binary64.targetExponent (totalExponent m e) = m.log2 - 52 + e := by
    simp only [Format.targetExponent, totalExponent, Format.mantissaBits, Format.minExponent]
    omega
  have shift : (Format.binary64.targetExponent (totalExponent m e) - e).toNat = m.log2 - 52 := by
    omega
  refine ⟨ExtendedMantissa.mk m false false >>> (m.log2 - 52), ?_, keeps_shifted m _⟩
  simp only [shiftToTargetExponent, shiftToExponent, shift,
    ExtendedMantissa.ofMantissaAndAccuracy]

theorem roundWithAccuracy_eq {spec : Format} {s : Sign} {accuracy : Accuracy}
    {em em' : ExtendedMantissa} {e' e'' : Int}
    (first : shiftToTargetExponent spec m e accuracy = (em, e'))
    (second : shiftToTargetExponent spec em.roundedMantissa e' .exact = (em', e''))
    (positive : 0 < em'.mantissa) :
    roundWithAccuracy spec s m e accuracy = .finite s em'.mantissa e'' positive := by
  simp only [roundWithAccuracy, first, second]
  rw [dif_neg (Nat.ne_of_gt positive)]

/-- Rounding to the nearest gives a number with the right parts; one digit too many after rounding
is a zero. -/
theorem isNormal_round (s : Sign) (large : 2 ^ 52 ≤ m) (inside : -1074 ≤ e)
    (place : e + (m.log2 - 52 : Nat) = (k : Int) - 52) (range : k ≤ 1000)
    (value : evenQuotient m (m.log2 - 52) * 2 ^ k = v * 2 ^ 52) :
    IsNormal (roundWithAccuracy .binary64 s m e .exact) (s.apply v) := by
  have digits : 52 ≤ m.log2 := (Nat.le_log2 (by omega)).mpr large
  obtain ⟨em, first, keeps⟩ := keeps_toTarget digits inside
  obtain ⟨least, most⟩ := evenQuotient_digits (m := m) (by omega) (Nat.sub_le m.log2 52)
  rw [Nat.sub_sub_self digits] at least
  rw [show m.log2 + 1 - (m.log2 - 52) = 53 by omega] at most
  rw [← keeps.roundedMantissa] at least most value
  rw [place] at first
  have digits' : 52 ≤ em.roundedMantissa.log2 := (Nat.le_log2 (by omega)).mpr least
  obtain ⟨em', second, keeps'⟩ := keeps_toTarget (e := (k : Int) - 52) digits' (by omega)
  -- rounding carries into one digit more or not; the second shift takes that digit's zero away
  rcases Nat.lt_or_eq_of_le most with less | carries
  · have same := log2_eq_of_normal least less
    rw [same, Nat.sub_self] at second keeps'
    have whole : em'.mantissa = em.roundedMantissa := by
      rw [keeps'.quotient, Nat.pow_zero, Nat.div_one]
    have positive : 0 < em'.mantissa := by omega
    rw [roundWithAccuracy_eq first second positive]
    have exponent : (k : Int) - 52 + (0 : Nat) = k - 52 := by omega
    rw [exponent]
    exact .finite s positive (by omega) (by omega) (by omega) (by rw [whole, value])
  · have same : em.roundedMantissa.log2 = 53 := by rw [carries, Nat.log2_two_pow]
    rw [same] at second keeps'
    have whole : em'.mantissa = 2 ^ 52 := by
      rw [keeps'.quotient, carries]
      exact Nat.pow_div (by decide) (by decide)
    have positive : 0 < em'.mantissa := by omega
    rw [roundWithAccuracy_eq first second positive]
    have exponent : (k : Int) - 52 + (53 - 52 : Nat) = (k + 1 : Nat) - 52 := by omega
    rw [exponent]
    refine .finite s positive (by omega) (by omega) (by omega) ?_
    rw [whole, ← value, carries, Nat.pow_succ]
    omega

end Rounding

section Packing

variable {u w : UnpackedFloat} {a b : Int}

theorem toNat_leadingBit {m : Nat} (least : 2 ^ 52 ≤ m) (most : m < 2 ^ 53) :
    (1#1 ++ BitVec.ofNat 52 m).toNat = m := by
  rw [BitVec.toNat_append, ← Nat.shiftLeft_add_eq_or_of_lt (BitVec.ofNat 52 m).isLt,
    BitVec.toNat_ofNat, Nat.shiftLeft_eq]
  simp
  omega

theorem IsNormal.unpack_pack (h : IsNormal u a) : (Float.Model.pack u).unpack = u := by
  cases h with
  | zero s => cases s <;> rfl
  | @finite s m k v positive least most range value =>
      have digits : m.log2 + 1 = Format.binary64.mantissaBits := by
        rw [log2_eq_of_normal least most]
        rfl
      have biased : ((k : Int) - 52 + Format.binary64.exponentBias +
          Format.binary64.mantissaBitsWithoutImplicit).toNat = k + 1023 := by
        have bias : ((Format.binary64.exponentBias : Nat) : Int) = 1023 := rfl
        simp only [bias]
        omega
      have packed : UnpackedFloat.pack .binary64 (.finite s m (k - 52) positive) =
          packComponents .binary64 s (BitVec.ofNat 11 (k + 1023)) (BitVec.ofNat 52 m) := by
        simp only [UnpackedFloat.pack, biased]
        rw [if_neg (by show ¬ 2 ^ 11 ≤ k + 1023 + 1; omega), if_pos digits]
      show UnpackedFloat.unpack .binary64 (UnpackedFloat.pack .binary64 _) = _
      rw [packed, UnpackedFloat.unpack]
      simp only [unpackMantissa_packComponents, unpackExponent_packComponents,
        unpackSign_packComponents, Sign.ofBitVec_toBitVec]
      have field : (BitVec.ofNat 11 (k + 1023)).toNat = k + 1023 := by
        rw [BitVec.toNat_ofNat]
        omega
      rw [if_neg, if_neg]
      · rw [UnpackedFloat.finite.injEq]
        refine ⟨rfl, toNat_leadingBit least most, ?_⟩
        have bias : ((Format.binary64.exponentBias : Nat) : Int) = 1023 := rfl
        simp only [field, bias]
        omega
      · intro same
        have := congrArg BitVec.toNat same
        rw [field] at this
        simp at this
      · intro same
        have := congrArg BitVec.toNat same
        rw [field] at this
        simp at this
        omega

theorem IsNormal.packed (h : IsNormal u a) : IsNormal (Float.Model.pack u).unpack a := by
  rw [h.unpack_pack]
  exact h

theorem IsNormal.neg (h : IsNormal u a) : IsNormal u.neg (-a) := by
  cases h with
  | zero s => exact .zero (-s)
  | @finite s m k v positive least most range value =>
      have opposite : -s.apply v = (-s).apply v := by
        cases s
        · exact Int.neg_neg _
        · rfl
      rw [opposite]
      exact .finite (-s) positive least most range value

theorem lt_of_exponent {m k v m' k' v' : Nat} (most : m < 2 ^ 53) (least' : 2 ^ 52 ≤ m')
    (value : m * 2 ^ k = v * 2 ^ 52) (value' : m' * 2 ^ k' = v' * 2 ^ 52) (less : k < k') :
    v < v' := by
  have beyond : v * 2 ^ 52 < v' * 2 ^ 52 := by
    calc v * 2 ^ 52 = m * 2 ^ k := value.symm
      _ < 2 ^ 53 * 2 ^ k := (Nat.mul_lt_mul_right (Nat.two_pow_pos k)).mpr most
      _ = 2 ^ 52 * 2 ^ (k + 1) := by rw [← Nat.pow_add, ← Nat.pow_add]; congr 1; omega
      _ ≤ 2 ^ 52 * 2 ^ k' := Nat.mul_le_mul_left _ (Nat.pow_le_pow_right (by decide) less)
      _ ≤ m' * 2 ^ k' := Nat.mul_le_mul_right _ least'
      _ = v' * 2 ^ 52 := value'
  omega

/-- Exponents are compared before mantissas, and numbers in this way. -/
theorem compare_parts {m k v m' k' v' : Nat} (least : 2 ^ 52 ≤ m) (most : m < 2 ^ 53)
    (least' : 2 ^ 52 ≤ m') (most' : m' < 2 ^ 53) (value : m * 2 ^ k = v * 2 ^ 52)
    (value' : m' * 2 ^ k' = v' * 2 ^ 52) :
    (compare (k - 52 : Int) (k' - 52)).then (compare m m') = compare (v : Int) v' := by
  rcases Nat.lt_trichotomy k k' with less | rfl | greater
  · have order := lt_of_exponent most least' value value' less
    rw [Int.compare_eq_lt.mpr (by omega), Int.compare_eq_lt.mpr (by omega)]
    rfl
  · have positive : 0 < 2 ^ k := Nat.two_pow_pos k
    rw [Int.compare_eq_eq.mpr rfl]
    show compare m m' = _
    rcases Nat.lt_trichotomy m m' with less | rfl | greater
    · have order := (Nat.mul_lt_mul_right positive).mpr less
      rw [Nat.compare_eq_lt.mpr less, Int.compare_eq_lt.mpr (by omega)]
    · rw [Nat.compare_eq_eq.mpr rfl, Int.compare_eq_eq.mpr (by omega)]
    · have order := (Nat.mul_lt_mul_right positive).mpr greater
      rw [Nat.compare_eq_gt.mpr greater, Int.compare_eq_gt.mpr (by omega)]
  · have order := lt_of_exponent most' least value' value greater
    rw [Int.compare_eq_gt.mpr (by omega), Int.compare_eq_gt.mpr (by omega)]
    rfl

theorem compare_neg (a b : Int) : compare (-a) (-b) = (compare a b).swap := by
  rw [Int.compare_swap]
  rcases Int.lt_trichotomy a b with less | rfl | greater
  · rw [Int.compare_eq_gt.mpr less, Int.compare_eq_gt.mpr (by omega)]
  · rw [Int.compare_eq_eq.mpr rfl, Int.compare_eq_eq.mpr rfl]
  · rw [Int.compare_eq_lt.mpr greater, Int.compare_eq_lt.mpr (by omega)]

theorem positive_of_value {m k v : Nat} (positive : 0 < m) (value : m * 2 ^ k = v * 2 ^ 52) :
    0 < v := by
  have := Nat.mul_pos positive (Nat.two_pow_pos k)
  omega

theorem some_lt (h : a < b) : some .lt = some (compare a b) := by
  rw [Int.compare_eq_lt.mpr h]

theorem some_gt (h : b < a) : some .gt = some (compare a b) := by
  rw [Int.compare_eq_gt.mpr h]

/-- Numbers with these parts are ordered as the integers. -/
theorem IsNormal.compare (h : IsNormal u a) (h' : IsNormal w b) :
    u.compare w = some (Ord.compare a b) := by
  cases h with
  | zero s =>
      cases h' with
      | zero s' => cases s <;> cases s' <;> rfl
      | @finite s' m' k' v' positive' least' most' range' value' =>
          have some := positive_of_value positive' value'
          cases s'
          · exact some_gt (by simp [Sign.apply]; omega)
          · exact some_lt (by simp [Sign.apply]; omega)
  | @finite s m k v positive least most range value =>
      have some := positive_of_value positive value
      cases h' with
      | zero s' =>
          cases s
          · exact some_lt (by simp [Sign.apply]; omega)
          · exact some_gt (by simp [Sign.apply]; omega)
      | @finite s' m' k' v' positive' least' most' range' value' =>
          have some' := positive_of_value positive' value'
          have parts := compare_parts least most least' most' value value'
          cases s <;> cases s'
          · exact congrArg Option.some ((congrArg Ordering.swap parts).trans (compare_neg _ _).symm)
          · exact some_lt (by simp [Sign.apply]; omega)
          · exact some_gt (by simp [Sign.apply]; omega)
          · exact congrArg Option.some parts

end Packing

section Conversion

/-- The parts of a floating-point number. -/
def parts (x : Float) : UnpackedFloat :=
  x.toModel.unpack

theorem parts_mul (x y : Float) :
    parts (x * y) = (Float.Model.pack (UnpackedFloat.mul .binary64 (parts x) (parts y))).unpack :=
  rfl

theorem parts_toFloat (n : UInt64) :
    parts n.toFloat = (Float.Model.pack (UnpackedFloat.ofUInt64 .binary64 n)).unpack :=
  rfl

def one : Float :=
  Float.ofBits 0x3FF0000000000000

theorem parts_one : parts one = .finite .positive (2 ^ 52) (-52) (by decide) := by
  rfl

theorem isNormal_mul_one {u : UnpackedFloat} {a : Int} (h : IsNormal u a)
    (small : a.natAbs < 2 ^ 64) : IsNormal (UnpackedFloat.mul .binary64 u (parts one)) a := by
  rw [parts_one]
  cases h with
  | zero s => exact .zero _
  | @finite s m k v positive least most range value =>
      have digits : (m * 2 ^ 52).log2 = 104 :=
        (Nat.log2_eq_iff (by omega)).mpr ⟨by omega, by omega⟩
      have quotient : evenQuotient (m * 2 ^ 52) 52 = m := by
        rw [← Nat.zero_add 52, evenQuotient_mul, evenQuotient_zero]
      have exponent : k ≤ 1000 := by
        have magnitude : (s.apply v).natAbs = v := by cases s <;> simp [Sign.apply]
        have least : 2 ^ 52 * 2 ^ k ≤ m * 2 ^ k := Nat.mul_le_mul_right _ least
        have below : 2 ^ k < 2 ^ 64 := by omega
        have := (Nat.pow_lt_pow_iff_right (by decide)).mp below
        omega
      have sign : s * .positive = s := by cases s <;> rfl
      simp only [UnpackedFloat.mul, sign]
      refine isNormal_round s (by omega) (by omega) ?_ exponent ?_
      · rw [digits]
        omega
      · rw [digits]
        exact (congrArg (· * 2 ^ k) quotient).trans value

theorem isNormal_small {n : Nat} (h : n < 2 ^ 53) :
    IsNormal (UnpackedFloat.ofNat .binary64 n) n := by
  rcases Nat.eq_zero_or_pos n with rfl | positive
  · exact .zero .positive
  have digits : n.log2 ≤ 52 := by
    have := (Nat.log2_lt (Nat.ne_of_gt positive)).mpr h
    omega
  have order : compare (n : Int) 0 = .gt := Int.compare_eq_gt.mpr (by omega)
  have target : Format.binary64.targetExponent (totalExponent n 0) = n.log2 - 52 := by
    simp only [Format.targetExponent, totalExponent, Format.mantissaBits, Format.minExponent]
    omega
  have shift : (0 - Format.binary64.targetExponent (totalExponent n 0)).toNat = 52 - n.log2 := by
    omega
  have log : (n <<< (52 - n.log2)).log2 = 52 := by
    rw [Nat.shiftLeft_eq, log2_mul_two_pow (Nat.ne_of_gt positive), Nat.add_sub_cancel' digits]
  have large : 2 ^ 52 ≤ n <<< (52 - n.log2) := by
    have begins : n <<< (52 - n.log2) ≠ 0 := by
      intro zero
      rw [zero] at log
      cases log
    have least := Nat.log2_self_le begins
    rw [log] at least
    exact least
  have whole : evenQuotient (n <<< (52 - n.log2)) 0 * 2 ^ n.log2 = n * 2 ^ 52 := by
    rw [evenQuotient_zero, Nat.shiftLeft_eq, Nat.mul_assoc, ← Nat.pow_add,
      Nat.sub_add_cancel digits]
  simp only [UnpackedFloat.ofNat, UnpackedFloat.ofInt, UnpackedFloat.normalize, order,
    UnpackedFloat.round, decreaseExponent, Int.toNat_natCast, shift]
  refine isNormal_round .positive large (by omega) ?_ (Nat.le_trans digits (by decide)) ?_
  · rw [log]
    omega
  · rw [log]
    exact whole

theorem ofScientific_eq {n : Nat} (nonzero : n ≠ 0) :
    UnpackedFloat.ofScientific .binary64 n 0 =
      roundWithAccuracy .binary64 .positive (n * 2 ^ 53) (-53) .exact := by
  have exponentBits : Format.binary64.exponentBits = 11 := rfl
  have mantissaBits : Format.binary64.mantissaBits = 53 := rfl
  rw [UnpackedFloat.ofScientific, dif_neg nonzero, if_neg (by rw [exponentBits]; omega),
    if_neg (by rw [exponentBits]; omega), if_pos (Int.le_refl 0)]
  have mantissa : n <<< 53 * 10 ^ (0 : Int).toNat = n * 2 ^ 53 := by
    rw [Int.toNat_zero, Nat.pow_zero, Nat.mul_one, Nat.shiftLeft_eq]
  simp only [UnpackedFloat.mul, mantissaBits, mantissa]
  rfl

theorem isNormal_large {n : Nat} (h : 2 ^ 53 ≤ n) (below : n < 2 ^ 64) :
    IsNormal (UnpackedFloat.ofScientific .binary64 n 0) (rounded n) := by
  have nonzero : n ≠ 0 := by omega
  have digits : 53 ≤ n.log2 := (Nat.le_log2 nonzero).mpr h
  have most : n.log2 < 64 := (Nat.log2_lt nonzero).mpr below
  have log : (n * 2 ^ 53).log2 = n.log2 + 53 := log2_mul_two_pow nonzero
  have shift : n.log2 + 53 - 52 = n.log2 - 52 + 53 := by omega
  have quotient :
      evenQuotient (n * 2 ^ 53) ((n * 2 ^ 53).log2 - 52) = evenQuotient n (n.log2 - 52) := by
    rw [log, shift, evenQuotient_mul]
  rw [ofScientific_eq nonzero]
  refine isNormal_round (k := n.log2) .positive (by omega) (by decide) ?_ (by omega) ?_
  · rw [log]
    omega
  · rw [quotient, rounded, Nat.mul_assoc, ← Nat.pow_add, Nat.sub_add_cancel (by omega)]

/-- Up to 2 ^ 53 the number is that of a word times one; beyond, it is rounded once. -/
theorem isNormal_ofNat {n : Nat} (h : n < 2 ^ 64) :
    IsNormal (parts (Float.ofNat n)) (rounded n) := by
  by_cases small : n < 2 ^ 53
  · have fast : Float.ofNat n = n.toUInt64.toFloat * one := by
      show Float.ofScientific n false 0 = _
      rw [Float.ofScientific, dif_pos ⟨small, by decide⟩]
      rfl
    have same : n.toUInt64.toNat = n := Nat.mod_eq_of_lt h
    have whole : IsNormal (parts n.toUInt64.toFloat) n := by
      rw [parts_toFloat, UnpackedFloat.ofUInt64, same]
      exact (isNormal_small small).packed
    rw [fast, rounded_of_lt small, parts_mul]
    exact (isNormal_mul_one whole h).packed
  · have slow : Float.ofNat n = Float.ofModel (Float.Model.ofScientific n 0) := by
      show Float.ofScientific n false 0 = _
      rw [Float.ofScientific, dif_neg (fun fast => small fast.1)]
      rfl
    rw [slow]
    exact (isNormal_large (Nat.le_of_not_lt small) h).packed

theorem isNormal_ofInt {n : Int} (h : n.natAbs < 2 ^ 64) :
    IsNormal (parts (Float.ofInt n)) (roundedInt n) := by
  match n with
  | .ofNat n => exact isNormal_ofNat h
  | .negSucc n =>
      have magnitude : IsNormal (parts (Float.ofNat (n + 1))) (rounded (n + 1)) := isNormal_ofNat h
      exact magnitude.neg.packed

end Conversion

end PredictiveParsing.Numeral
