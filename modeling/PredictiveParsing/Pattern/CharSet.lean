import PredictiveParsing.Unicode.CaseFolding
import PredictiveParsing.Unicode.Property

/-!
Sets of characters that patterns name: ranges, the classes with a letter and the
bracketed ASCII classes.
-/
namespace PredictiveParsing.Pattern

open Unicode (Category)

/-- A set of characters. -/
abbrev CharSet := Unicode.RangeSet

namespace CharSet

/-- The characters outside the set. If only the surrogates part two of its ranges,
the characters at their ends, U+D7FF and U+E000, stay in. -/
def negate (s : CharSet) : CharSet :=
  if s.ranges.any (·.2 == 0xd7ff) && s.ranges.any (·.1 == 0xe000) then
    s.compl.union (.range '\ud7ff' '\ue000')
  else s.compl

/-- Whether all members are ASCII characters. -/
def isAscii (s : CharSet) : Bool :=
  s.last?.all (· < 128)

def digit : CharSet := .range '0' '9'

def lower : CharSet := .range 'a' 'z'

def upper : CharSet := .range 'A' 'Z'

def alpha : CharSet := upper.union lower

def alnum : CharSet := digit.union alpha

/-- Letters, digits and the underscore. -/
def word : CharSet := alnum.union (.single '_')

/-- The ASCII white space characters. -/
def space : CharSet := (Unicode.RangeSet.range '\t' '\r').union (.single ' ')

/-- The visible ASCII characters. -/
def graph : CharSet := .range '!' '~'

/-- The ASCII characters. -/
def ascii : CharSet := .range '\x00' '\x7f'

/-- The set with the case variants of its members; outside Unicode mode only ASCII
letters have variants, among the ASCII letters. -/
def fold (unicode : Bool) (s : CharSet) : CharSet :=
  if unicode then s.withCaseVariants
  else
    let shifted (letters : CharSet) (shift : Int) :=
      (s.inter letters).ranges.toList.map fun r => ((r.1 + shift).toNat, (r.2 + shift).toNat)
    s.union (.ofRanges (shifted upper 32 ++ shifted lower (-32)))

/-- The bracketed ASCII class of this name. -/
def named? (name : String) : Option CharSet :=
  match name with
  | "alnum" => some alnum
  | "alpha" => some alpha
  | "ascii" => some ascii
  | "blank" => some ((Unicode.RangeSet.single '\t').union (.single ' '))
  | "cntrl" => some ((Unicode.RangeSet.range '\x00' '\x1f').union (.single '\x7f'))
  | "digit" => some digit
  | "graph" => some graph
  | "lower" => some lower
  | "print" => some (graph.union (.single ' '))
  | "punct" => some (graph.diff alnum)
  | "space" => some space
  | "upper" => some upper
  | "word" => some word
  | "xdigit" => some (digit.union ((Unicode.RangeSet.range 'A' 'F').union (.range 'a' 'f')))
  | _ => none

/-- The digits, blanks or word characters by their letter, among all characters or
in ASCII. -/
def lettered? (unicode : Bool) (letter : Char) : Option CharSet :=
  match letter with
  | 'd' => some (if unicode then Category.decimalNumber.table else digit)
  | 's' => some (if unicode then Unicode.whiteSpace else space)
  | 'w' => some (if unicode then Unicode.word else word)
  | _ => none

end CharSet
end PredictiveParsing.Pattern
