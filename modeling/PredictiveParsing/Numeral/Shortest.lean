import PredictiveParsing.Numeral.Binary

/-!
The shortest decimal that reads back as a given floating-point number. Decimals
are looked for on ever finer grids of powers of ten. On the first grid that has
a point among the reals that round to the number, the point nearest to the
number is taken, and of two equally near ones the upper.
-/
namespace PredictiveParsing.Numeral

/-- The decimal `coefficient * 10 ^ exponent`. -/
structure Decimal where
  coefficient : Nat
  exponent : Int

/-- The reals that round to a positive number, over a common denominator:
the number itself, the two ends, and whether the ends belong to it. -/
structure RoundingInterval where
  value : Nat
  low : Nat
  high : Nat
  denominator : Nat
  closed : Bool

namespace RoundingInterval

/-- The interval of a positive number. It reaches half way to the neighbours,
and the neighbour below a power of two is nearer. Ends belong to an even
mantissa. -/
def ofBinary (b : Binary) : RoundingInterval :=
  let below := if b.mantissa = Binary.leadingBit ∧ Binary.leastExponent < b.exponent then 1 else 2
  let scale := Nat.pow 2 (b.exponent - 2).toNat
  ⟨4 * b.mantissa * scale, (4 * b.mantissa - below) * scale, (4 * b.mantissa + 2) * scale,
    Nat.pow 2 (2 - b.exponent).toNat, b.mantissa % 2 == 0⟩

/-- Whether the fraction lies in the interval. -/
def holds (i : RoundingInterval) (numerator denominator : Nat) : Bool :=
  let n := numerator * i.denominator
  let low := i.low * denominator
  let high := i.high * denominator
  if i.closed then decide (low ≤ n) && decide (n ≤ high) else decide (low < n) && decide (n < high)

/-- The decimal with this exponent that lies in the interval nearest to the
value. Only the two neighbours of the value can. -/
def onGrid? (i : RoundingInterval) (exponent : Int) : Option Decimal :=
  let step := Nat.pow 10 exponent.toNat
  let parts := Nat.pow 10 (-exponent).toNat
  let below := i.value * parts / (i.denominator * step)
  let twice := 2 * i.value * parts
  let middle := (2 * below + 1) * (i.denominator * step)
  match i.holds (below * step) parts, i.holds ((below + 1) * step) parts with
  | true, true => some ⟨if twice < middle then below else below + 1, exponent⟩
  | true, false => some ⟨below, exponent⟩
  | false, true => some ⟨below + 1, exponent⟩
  | false, false => none

/-- The first hit on the grids from `exponent` down, at most `count` of them. -/
def search (i : RoundingInterval) : Nat → Int → Option Decimal
  | 0, _ => none
  | count + 1, exponent =>
    match i.onGrid? exponent with
    | some d => some d
    | none => i.search count (exponent - 1)

end RoundingInterval

/-- The shortest decimal that rounds to a positive finite number. The coarsest
grid has a step above the number, the finest one holds every number. -/
def shortest (b : Binary) : Decimal :=
  let i := RoundingInterval.ofBinary b
  let top := (Nat.toDigits 10 (i.value / i.denominator)).length
  ((i.search (top + 1076) top).getD ⟨b.mantissa * Nat.pow 2 b.exponent.toNat, 0⟩)

/-- A decimal in positional notation, without a point if it is whole. -/
def Decimal.text (d : Decimal) : String :=
  let digits := Nat.toDigits 10 d.coefficient
  let places := (-d.exponent).toNat
  if places = 0 then String.ofList (digits ++ List.replicate d.exponent.toNat '0')
  else
    let padded := List.replicate (places + 1 - digits.length) '0' ++ digits
    let whole := padded.length - places
    String.ofList (padded.take whole) ++ "." ++ String.ofList (padded.drop whole)

/-- A floating-point number as text: the shortest digits that read back, never
with an exponent. -/
def floatText (x : Float) : String :=
  if x.isNaN then "NaN"
  else
    let b := Binary.ofFloat x
    (if b.negative then "-" else "") ++
      (if x.isInf then "inf"
      else if b.mantissa = 0 then "0"
      else (shortest b).text)

end PredictiveParsing.Numeral
