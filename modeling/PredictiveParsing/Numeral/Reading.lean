import PredictiveParsing.Numeral.Digit

/-!
Integers written as text, and numbers read from text: integers of 64 bits,
natural numbers of 64 bits, and floating-point numbers. Each reader takes the
whole text or nothing.
-/
namespace PredictiveParsing.Numeral

/-- The decimal digits of an integer, after a minus if it is negative. -/
def integerText (n : Int) : String :=
  String.ofList ((if n < 0 then ['-'] else []) ++ Nat.toDigits 10 n.natAbs)

/-- Splits off one sign; the flag says whether it was a minus. -/
def signed : List Char → Bool × List Char
  | c :: cs => if c = '-' then (true, cs) else if c = '+' then (false, cs) else (false, c :: cs)
  | [] => (false, [])

/-- The integer that an optional sign and decimal digits denote. -/
def integer? (cs : List Char) : Option Int :=
  let (negative, digits) := signed cs
  (natural? digits).map fun n => if negative then -(n : Int) else n

/-- The 64-bit integer of this value, if it is one. -/
def int64? (n : Int) : Option Int64 :=
  if -0x8000000000000000 ≤ n ∧ n < 0x8000000000000000 then some (Int64.ofInt n) else none

/-- Reads a 64-bit integer. -/
def readInt64? (cs : List Char) : Option Int64 :=
  (integer? cs).bind int64?

/-- Reads a natural number below `2 ^ 64`, from digits alone. -/
def readWord? (cs : List Char) : Option Nat :=
  (natural? cs).bind fun n => if n < 0x10000000000000000 then some n else none

/-- The floating-point number nearest to `coefficient * 10 ^ exponent`. Numbers
far outside the range of exponents are infinite or zero without computing the
power. -/
def nearest (coefficient : Nat) (exponent : Int) : Float :=
  let magnitude := exponent + (Nat.toDigits 10 coefficient).length
  if coefficient = 0 then 0
  else if 400 < magnitude then 1 / 0
  else if magnitude < -400 then 0
  else Float.ofScientific coefficient (exponent < 0) exponent.natAbs

/-- The exponent that follows the digits: nothing, or `e` with an integer. -/
def exponent? : List Char → Option Int
  | [] => some 0
  | c :: cs => if c = 'e' ∨ c = 'E' then integer? cs else none

/-- A number in digits, with an optional point and exponent. -/
def decimal? (cs : List Char) : Option Float :=
  let whole := cs.takeWhile isDigit
  let afterWhole := cs.dropWhile isDigit
  let (fraction, rest) :=
    match afterWhole with
    | '.' :: more => (more.takeWhile isDigit, more.dropWhile isDigit)
    | _ => ([], afterWhole)
  match natural? (whole ++ fraction), exponent? rest with
  | some n, some e => some (nearest n (e - fraction.length))
  | _, _ => none

/-- Reads a floating-point number: an optional sign, then digits or one of the
words for infinity and for no number, in either case. -/
def readFloat? (cs : List Char) : Option Float :=
  let (negative, rest) := signed cs
  let word := String.ofList (rest.map Char.toLower)
  let magnitude :=
    if word = "inf" ∨ word = "infinity" then some (1 / 0)
    else if word = "nan" then some (0 / 0)
    else decimal? rest
  magnitude.map fun x => if negative then -x else x

end PredictiveParsing.Numeral
