/-!
Decimal and hexadecimal digits, and the numbers that strings of them denote.
Only the ASCII digits count.
-/
namespace PredictiveParsing.Numeral

/-- The value of a decimal digit. -/
def digit? (c : Char) : Option Nat :=
  if '0' ≤ c ∧ c ≤ '9' then some (c.toNat - '0'.toNat) else none

/-- The value of a hexadecimal digit, upper or lower case. -/
def hexDigit? (c : Char) : Option Nat :=
  if '0' ≤ c ∧ c ≤ '9' then some (c.toNat - '0'.toNat)
  else if 'a' ≤ c ∧ c ≤ 'f' then some (c.toNat - 'a'.toNat + 10)
  else if 'A' ≤ c ∧ c ≤ 'F' then some (c.toNat - 'A'.toNat + 10)
  else none

/-- Whether the character is a decimal digit. -/
def isDigit (c : Char) : Bool :=
  (digit? c).isSome

/-- The number that digits to base `base` denote when they follow the digits of
`acc`; `none` if some character is no digit. -/
def positional? (digitOf : Char → Option Nat) (base : Nat) : Nat → List Char → Option Nat
  | acc, [] => some acc
  | acc, c :: cs =>
    match digitOf c with
    | some d => positional? digitOf base (base * acc + d) cs
    | none => none

/-- The number that one or more decimal digits denote. -/
def natural? (cs : List Char) : Option Nat :=
  if cs.isEmpty then none else positional? digit? 10 0 cs

/-- The number that one or more hexadecimal digits denote. -/
def hexadecimal? (cs : List Char) : Option Nat :=
  if cs.isEmpty then none else positional? hexDigit? 16 0 cs

end PredictiveParsing.Numeral
