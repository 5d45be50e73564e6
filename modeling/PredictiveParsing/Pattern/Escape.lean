import PredictiveParsing.Numeral.Digit
import PredictiveParsing.Pattern.Flags
import PredictiveParsing.Pattern.Node
import PredictiveParsing.Pattern.Property
import PredictiveParsing.Text.Blank

/-!
What may follow a backslash in a pattern. Each reader takes the text after the
part already read and gives back what it read and the text that is left; `none`
means that the pattern is malformed.
-/
namespace PredictiveParsing.Pattern

/-- What a single part of a pattern stands for. -/
inductive Atom where
  /-- A character; `byte` marks one given by two hexadecimal digits. -/
  | char (c : Char) (byte : Bool)
  /-- A class with a letter, or the characters outside it. -/
  | lettered (s : CharSet) (negated : Bool)
  /-- Characters with a property, or without it. -/
  | property (s : CharSet) (negated : Bool)
  | dot
  | look (l : Look)

/-- Takes characters as long as they satisfy a condition. If blanks do not count,
those around and between the characters are left out, and so are comments. The
flag `comment` tells whether the text starts inside a comment. -/
def spanSpaced (verbose : Bool) (p : Char → Bool) (comment : Bool) :
    List Char → List Char × List Char
  | [] => ([], [])
  | c :: cs =>
    if comment then spanSpaced verbose p (c ≠ '\n') cs
    else if verbose && c = '#' then spanSpaced verbose p true cs
    else if verbose && Text.isBlank c then spanSpaced verbose p false cs
    else if p c then
      let (taken, rest) := spanSpaced verbose p false cs
      (c :: taken, rest)
    else ([], c :: cs)

/-- Leaves out blanks and comments if they do not count. -/
def skipBlank (verbose : Bool) (cs : List Char) : List Char :=
  (spanSpaced verbose (fun _ => false) false cs).2

/-- The character with this code point. -/
def charOf? (n : Nat) : Option Char :=
  if n < 0xd800 ∨ (0xdfff < n ∧ n < 0x110000) then some (Char.ofNat n) else none

/-- Reads a fixed number of hexadecimal digits. -/
def hexDigits (verbose : Bool) : Nat → List Char → Option (List Char × List Char)
  | 0, cs => some ([], cs)
  | n + 1, cs =>
    match skipBlank verbose cs with
    | [] => none
    | c :: rest =>
      match Numeral.hexDigit? c, hexDigits verbose n rest with
      | some _, some (digits, rest) => some (c :: digits, rest)
      | _, _ => none

/-- Splits a text at the first closing brace. -/
def upToBrace (verbose : Bool) (cs : List Char) : Option (List Char × List Char) :=
  match spanSpaced verbose (· ≠ '\x7d') false cs with
  | (_, []) => none
  | (inner, _ :: rest) => some (inner, rest)

/-- Reads the code point after `x`, `u` or `U`: digits in braces, or the number
of digits that the letter stands for. -/
def hexEscape (verbose : Bool) (digits : Nat) (cs : List Char) : Option (Atom × List Char) :=
  match skipBlank verbose cs with
  | '\x7b' :: rest =>
    (upToBrace verbose rest).bind fun (inner, rest) =>
      ((Numeral.hexadecimal? inner).bind charOf?).map fun c => (.char c false, rest)
  | rest =>
    (hexDigits verbose digits rest).bind fun (inner, rest) =>
      ((Numeral.hexadecimal? inner).bind charOf?).map fun c => (.char c (digits == 2), rest)

/-- Reads the property after `p` or `P`: one letter, or a name in braces. -/
def propertyEscape (verbose negated : Bool) (cs : List Char) : Option (Atom × List Char) :=
  match skipBlank verbose cs with
  | [] => none
  | '\x7b' :: rest =>
    (upToBrace verbose rest).bind fun (inner, rest) =>
      (namedSet? inner).map fun (without, s) => (.property s (negated != without), rest)
  | c :: rest => (propertySet? (propertyKey [c])).map fun s => (.property s negated, rest)

/-- Reads the class with this letter. -/
def letteredEscape (unicode negated : Bool) (letter : Char) (cs : List Char) :
    Option (Atom × List Char) :=
  (CharSet.lettered? unicode letter).map fun s => (.lettered s negated, cs)

/-- The word boundary with this name. -/
def namedBoundary? (unicode : Bool) (name : List Char) : Option Look :=
  match String.ofList name with
  | "start" => some (.wordStart unicode)
  | "end" => some (.wordEnd unicode)
  | "start-half" => some (.noWordBefore unicode)
  | "end-half" => some (.noWordAfter unicode)
  | _ => none

/-- Whether the character may occur in the name of a word boundary. -/
def isBoundaryChar (c : Char) : Bool :=
  CharSet.alpha.contains c || c = '-'

/-- Reads what follows `b`: a name in braces, or nothing. A brace before other
characters is left for a counted repetition. -/
def boundaryEscape (flags : Flags) (cs : List Char) : Option (Atom × List Char) :=
  match cs with
  | '\x7b' :: rest =>
    match skipBlank flags.verbose rest with
    | [] => none
    | c :: _ =>
      if isBoundaryChar c then
        (upToBrace flags.verbose rest).bind fun (inner, rest) =>
          (namedBoundary? flags.unicode inner).map fun l => (.look l, rest)
      else some (.look (.boundary flags.unicode), cs)
  | _ => some (.look (.boundary flags.unicode), cs)

/-- Reads what follows a backslash. Punctuation stands for itself, except the
angle brackets, which are word boundaries; letters and digits without a meaning
are refused. -/
def escape (flags : Flags) : List Char → Option (Atom × List Char)
  | [] => none
  | c :: cs =>
    match c with
    | 'x' => hexEscape flags.verbose 2 cs
    | 'u' => hexEscape flags.verbose 4 cs
    | 'U' => hexEscape flags.verbose 8 cs
    | 'p' => propertyEscape flags.verbose false cs
    | 'P' => propertyEscape flags.verbose true cs
    | 'd' | 's' | 'w' => letteredEscape flags.unicode false c cs
    | 'D' | 'S' | 'W' => letteredEscape flags.unicode true c.toLower cs
    | 'a' => some (.char '\x07' false, cs)
    | 'f' => some (.char '\x0c' false, cs)
    | 't' => some (.char '\t' false, cs)
    | 'n' => some (.char '\n' false, cs)
    | 'r' => some (.char '\r' false, cs)
    | 'v' => some (.char '\x0b' false, cs)
    | 'A' => some (.look .textStart, cs)
    | 'z' => some (.look .textEnd, cs)
    | 'b' => boundaryEscape flags cs
    | 'B' => some (.look (.noBoundary flags.unicode), cs)
    | '<' => some (.look (.wordStart flags.unicode), cs)
    | '>' => some (.look (.wordEnd flags.unicode), cs)
    | _ => if c.toNat < 128 && !CharSet.alnum.contains c then some (.char c false, cs) else none

end PredictiveParsing.Pattern
