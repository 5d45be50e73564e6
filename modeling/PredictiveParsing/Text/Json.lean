import PredictiveParsing.Numeral.Digit

/-!
JSON documents of one level. The members of an object or array are read as far
as they are truth values or numbers; strings, nulls and nested documents are only
checked for their form.
-/
namespace PredictiveParsing.Text.Json

/-- A value as far as it is kept. A number is kept as its text. -/
inductive Scalar where
  | bool (b : Bool)
  | number (text : List Char)
  | other
deriving DecidableEq, Repr

/-- An object with its members in order, or an array. -/
inductive Document where
  | object (members : List (String × Scalar))
  | array (items : List Scalar)
deriving DecidableEq, Repr

/-- Leaves out the blanks that may stand between tokens. -/
def skipSpace (cs : List Char) : List Char :=
  cs.dropWhile fun c => c = ' ' || c = '\t' || c = '\n' || c = '\r'

/-- Reads the four digits of an escaped code unit. -/
def codeUnit : List Char → Option (Nat × List Char)
  | a :: b :: c :: d :: rest => (Numeral.hexadecimal? [a, b, c, d]).map fun n => (n, rest)
  | _ => none

/-- The character of a simple escape. -/
def escaped? (c : Char) : Option Char :=
  match c with
  | '"' | '\\' | '/' => some c
  | 'b' => some '\x08'
  | 'f' => some '\x0c'
  | 'n' => some '\n'
  | 'r' => some '\r'
  | 't' => some '\t'
  | _ => none

/-- Reads the rest of an escape after `u`. A first half of a pair needs the second
half behind it; if `strict` is not set, halves may stand alone. -/
def unicodeEscape (strict : Bool) (cs : List Char) : Option (Char × List Char) :=
  (codeUnit cs).bind fun (high, rest) =>
    if high < 0xd800 ∨ 0xdfff < high then some (Char.ofNat high, rest)
    else if !strict then some ('\ufffd', rest)
    else
      match rest with
      | '\\' :: 'u' :: more =>
        (codeUnit more).bind fun (low, rest) =>
          if high < 0xdc00 ∧ 0xdc00 ≤ low ∧ low ≤ 0xdfff then
            some (Char.ofNat (0x10000 + (high - 0xd800) * 0x400 + (low - 0xdc00)), rest)
          else none
      | _ => none

/-- Reads a string after its opening quote; each of the at most `count` rounds
takes a character. -/
def readString (strict : Bool) : Nat → List Char → Option (List Char × List Char)
  | 0, _ => none
  | count + 1, cs =>
    match cs with
    | [] => none
    | '"' :: rest => some ([], rest)
    | '\\' :: 'u' :: rest =>
      (unicodeEscape strict rest).bind fun (c, rest) =>
        (readString strict count rest).map fun (text, rest) => (c :: text, rest)
    | '\\' :: c :: rest =>
      (escaped? c).bind fun c =>
        (readString strict count rest).map fun (text, rest) => (c :: text, rest)
    | c :: rest =>
      if c < ' ' ∨ c = '\\' then none
      else (readString strict count rest).map fun (text, rest) => (c :: text, rest)

/-- Reads one or more digits. -/
def digits (cs : List Char) : Option (List Char × List Char) :=
  match cs.span Numeral.isDigit with
  | ([], _) => none
  | (ds, rest) => some (ds, rest)

/-- Reads an exponent, if there is one. -/
def exponentPart (cs : List Char) : Option (List Char × List Char) :=
  match cs with
  | e :: rest =>
    if e = 'e' ∨ e = 'E' then
      match rest with
      | sign :: more =>
        if sign = '+' ∨ sign = '-' then
          (digits more).map fun (ds, rest) => (e :: sign :: ds, rest)
        else (digits rest).map fun (ds, rest) => (e :: ds, rest)
      | [] => none
    else some ([], cs)
  | [] => some ([], cs)

/-- Reads a point and digits, if there is a point. -/
def fractionPart (cs : List Char) : Option (List Char × List Char) :=
  match cs with
  | '.' :: rest => (digits rest).map fun (ds, rest) => ('.' :: ds, rest)
  | _ => some ([], cs)

/-- Reads a number without sign; it begins with zero only if its integer part is
zero. -/
def magnitude (cs : List Char) : Option (List Char × List Char) :=
  (digits cs).bind fun (whole, rest) =>
    if whole.head? = some '0' ∧ whole ≠ ['0'] then none
    else
      (fractionPart rest).bind fun (fraction, rest) =>
        (exponentPart rest).map fun (exponent, rest) => (whole ++ fraction ++ exponent, rest)

mutual

/-- Reads a value; nested ones take from `count`. -/
def readValue : Nat → List Char → Option (Scalar × List Char)
  | 0, _ => none
  | count + 1, cs =>
    match skipSpace cs with
    | '"' :: rest =>
      (readString false (rest.length + 1) rest).map fun (_, rest) => (.other, rest)
    | '[' :: rest =>
      match skipSpace rest with
      | ']' :: rest => some (.other, rest)
      | rest => (readItems count rest).map fun (_, rest) => (.other, rest)
    | '\x7b' :: rest =>
      match skipSpace rest with
      | '\x7d' :: rest => some (.other, rest)
      | rest => (readMembers false count rest).map fun (_, rest) => (.other, rest)
    | '-' :: rest => (magnitude rest).map fun (text, rest) => (.number ('-' :: text), rest)
    | 't' :: 'r' :: 'u' :: 'e' :: rest => some (.bool true, rest)
    | 'f' :: 'a' :: 'l' :: 's' :: 'e' :: rest => some (.bool false, rest)
    | 'n' :: 'u' :: 'l' :: 'l' :: rest => some (.other, rest)
    | rest => (magnitude rest).map fun (text, rest) => (.number text, rest)

/-- Reads one or more values and the closing bracket. -/
def readItems : Nat → List Char → Option (List Scalar × List Char)
  | 0, _ => none
  | count + 1, cs =>
    (readValue count cs).bind fun (v, rest) =>
      match skipSpace rest with
      | ',' :: rest => (readItems count rest).map fun (vs, rest) => (v :: vs, rest)
      | ']' :: rest => some ([v], rest)
      | _ => none

/-- Reads one or more members and the closing brace. -/
def readMembers (strict : Bool) : Nat → List Char → Option (List (String × Scalar) × List Char)
  | 0, _ => none
  | count + 1, cs =>
    match skipSpace cs with
    | '"' :: rest =>
      (readString strict (rest.length + 1) rest).bind fun (key, rest) =>
        match skipSpace rest with
        | ':' :: rest =>
          (readValue count rest).bind fun (v, rest) =>
            match skipSpace rest with
            | ',' :: rest =>
              (readMembers strict count rest).map fun (ms, rest) =>
                ((String.ofList key, v) :: ms, rest)
            | '\x7d' :: rest => some ([(String.ofList key, v)], rest)
            | _ => none
        | _ => none
    | _ => none

end

/-- Reads a document, which must be an object or an array and the whole text. -/
def Document.ofText? (text : String) : Option Document :=
  let count := 2 * text.length + 2
  let found : Option (Document × List Char) :=
    match skipSpace text.toList with
    | '\x7b' :: rest =>
      match skipSpace rest with
      | '\x7d' :: rest => some (.object [], rest)
      | rest => (readMembers true count rest).map fun (ms, rest) => (.object ms, rest)
    | '[' :: rest =>
      match skipSpace rest with
      | ']' :: rest => some (.array [], rest)
      | rest => (readItems count rest).map fun (vs, rest) => (.array vs, rest)
    | _ => none
  found.bind fun (document, rest) => if (skipSpace rest).isEmpty then some document else none

end PredictiveParsing.Text.Json
