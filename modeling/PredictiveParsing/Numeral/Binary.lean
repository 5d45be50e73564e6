/-!
Floating-point numbers as exact integers: a sign, a whole mantissa and a power
of two. The remainder of a division is computed on this form, where it is exact.
-/
namespace PredictiveParsing.Numeral

/-- The number `mantissa * 2 ^ exponent`, negated if `negative`. -/
structure Binary where
  negative : Bool
  mantissa : Nat
  exponent : Int

namespace Binary

/-- The exponent of the smallest positive number. -/
def leastExponent : Int := -1074

/-- The mantissa with its leading bit and nothing else. -/
def leadingBit : Nat := Nat.pow 2 52

/-- The parts of a finite number. -/
def ofFloat (x : Float) : Binary :=
  let bits := x.toBits.toNat
  let negative := bits / Nat.pow 2 63 % 2 == 1
  let fraction := bits % leadingBit
  match bits / leadingBit % Nat.pow 2 11 with
  | 0 => ⟨negative, fraction, leastExponent⟩
  | e + 1 => ⟨negative, leadingBit + fraction, leastExponent + e⟩

/-- The number with the given parts, for parts that some number has when the
mantissa is shifted as far as its exponent allows. -/
def toFloat (b : Binary) : Float :=
  let sign := if b.negative then Nat.pow 2 63 else 0
  let shift := min (52 - b.mantissa.log2) (b.exponent - leastExponent).toNat
  let mantissa := b.mantissa * Nat.pow 2 shift
  let field := (b.exponent - shift - leastExponent).toNat
  let magnitude :=
    if mantissa < leadingBit then mantissa else (field + 1) * leadingBit + (mantissa - leadingBit)
  Float.ofBits (UInt64.ofNat (sign + magnitude))

/-- The integer next to the number on the way to zero. -/
def truncated (b : Binary) : Int :=
  let magnitude := b.mantissa * Nat.pow 2 b.exponent.toNat / Nat.pow 2 (-b.exponent).toNat
  if b.negative then -(magnitude : Int) else magnitude

/-- What is left of `x` after taking away `y` as often as it fits, both taken
without sign; the result has the sign of `x`. -/
def remainder (x y : Binary) : Binary :=
  let exponent := min x.exponent y.exponent
  let a := x.mantissa * Nat.pow 2 (x.exponent - exponent).toNat
  let b := y.mantissa * Nat.pow 2 (y.exponent - exponent).toNat
  ⟨x.negative, a % b, exponent⟩

end Binary

/-- The remainder of a division that truncates. It is exact and has the sign of
the dividend; a dividend below the divisor is its own remainder. -/
def remainder (x y : Float) : Float :=
  if x.isNaN || y.isNaN || x.isInf || y == 0 then 0 / 0
  else if y.isInf then x
  else ((Binary.ofFloat x).remainder (Binary.ofFloat y)).toFloat

end PredictiveParsing.Numeral
