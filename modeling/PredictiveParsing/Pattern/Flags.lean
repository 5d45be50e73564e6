/-!
The flags of a pattern and how a list of flag letters changes them.
-/
namespace PredictiveParsing.Pattern

/-- The flags in force at a place of a pattern. -/
structure Flags where
  /-- Letters match their case variants. -/
  ignoreCase : Bool
  /-- The anchors match at lines, not only at the whole text. -/
  multiLine : Bool
  /-- The dot matches line ends too. -/
  dotAll : Bool
  /-- Greedy and lazy repetition change places. -/
  swapGreed : Bool
  /-- Classes and case variants are those of all characters, not of ASCII. -/
  unicode : Bool
  /-- A carriage return ends a line too. -/
  crlf : Bool
  /-- Blanks and comments between parts of the pattern do not count. -/
  verbose : Bool

namespace Flags

/-- The flags at the start of a pattern. -/
def initial : Flags :=
  ⟨false, false, false, false, true, false, false⟩

/-- The flags after the flag with this letter is set or cleared. -/
def assign? (flags : Flags) (value : Bool) (letter : Char) : Option Flags :=
  match letter with
  | 'i' => some { flags with ignoreCase := value }
  | 'm' => some { flags with multiLine := value }
  | 's' => some { flags with dotAll := value }
  | 'U' => some { flags with swapGreed := value }
  | 'u' => some { flags with unicode := value }
  | 'R' => some { flags with crlf := value }
  | 'x' => some { flags with verbose := value }
  | _ => none

/-- Applies the letters from `value` on; a hyphen turns setting into clearing.
Refused are unknown letters, letters that occur twice and more than one hyphen,
which `seen` keeps track of, and a hyphen at the end. -/
def assignAll? (flags : Flags) (value : Bool) (seen : List Char) : List Char → Option Flags
  | [] => if seen.head? = some '-' then none else some flags
  | c :: cs =>
    if c ∈ seen then none
    else if c = '-' then flags.assignAll? false (c :: seen) cs
    else (flags.assign? value c).bind fun changed => changed.assignAll? value (c :: seen) cs

end Flags
end PredictiveParsing.Pattern
