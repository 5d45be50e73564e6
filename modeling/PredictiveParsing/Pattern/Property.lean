import PredictiveParsing.Pattern.CharSet
import PredictiveParsing.Unicode.BinaryProperty
import PredictiveParsing.Unicode.Script

/-!
Character properties by name. Names are compared without case, blanks, hyphens
and underscores, and an `is` at the start does not count.
-/
namespace PredictiveParsing.Pattern

open Unicode (BinaryProperty Category Script)

/-- A name in the form that its spellings share, from the part behind the `is`. -/
def plainName (name : List Char) : List Char :=
  (name.filter fun c => c ≠ ' ' && c ≠ '_' && c ≠ '-' && c.toNat < 128).map Char.toLower

/-- The form that all spellings of a name share. The `is` at the start stays in the
name `isc`. -/
def propertyKey (name : List Char) : String :=
  match name with
  | i :: s :: rest =>
    if i.toLower = 'i' ∧ s.toLower = 's' then
      if plainName rest = ['c'] then "isc" else String.ofList (plainName rest)
    else String.ofList (plainName name)
  | _ => String.ofList (plainName name)

/-- The characters of a general category, by its short or its long name. -/
def categorySet? (key : String) : Option CharSet :=
  match key with
  | "l" | "letter" => some (Category.members Category.letter)
  | "lu" | "uppercaseletter" => some Category.uppercaseLetter.table
  | "ll" | "lowercaseletter" => some Category.lowercaseLetter.table
  | "lt" | "titlecaseletter" => some Category.titlecaseLetter.table
  | "lc" | "casedletter" =>
    some (Category.members [.uppercaseLetter, .lowercaseLetter, .titlecaseLetter])
  | "lm" | "modifierletter" => some Category.modifierLetter.table
  | "lo" | "otherletter" => some Category.otherLetter.table
  | "m" | "mark" | "combiningmark" => some (Category.members Category.mark)
  | "mn" | "nonspacingmark" => some Category.nonspacingMark.table
  | "mc" | "spacingmark" => some Category.spacingMark.table
  | "me" | "enclosingmark" => some Category.enclosingMark.table
  | "n" | "number" => some (Category.members Category.number)
  | "nd" | "decimalnumber" | "digit" => some Category.decimalNumber.table
  | "nl" | "letternumber" => some Category.letterNumber.table
  | "no" | "othernumber" => some Category.otherNumber.table
  | "p" | "punctuation" | "punct" => some (Category.members Category.punctuation)
  | "pc" | "connectorpunctuation" => some Category.connectorPunctuation.table
  | "pd" | "dashpunctuation" => some Category.dashPunctuation.table
  | "ps" | "openpunctuation" => some Category.openPunctuation.table
  | "pe" | "closepunctuation" => some Category.closePunctuation.table
  | "pi" | "initialpunctuation" => some Category.initialPunctuation.table
  | "pf" | "finalpunctuation" => some Category.finalPunctuation.table
  | "po" | "otherpunctuation" => some Category.otherPunctuation.table
  | "s" | "symbol" => some (Category.members Category.symbol)
  | "sm" | "mathsymbol" => some Category.mathSymbol.table
  | "sc" | "currencysymbol" => some Category.currencySymbol.table
  | "sk" | "modifiersymbol" => some Category.modifierSymbol.table
  | "so" | "othersymbol" => some Category.otherSymbol.table
  | "z" | "separator" => some (Category.members Category.separator)
  | "zs" | "spaceseparator" => some Category.spaceSeparator.table
  | "zl" | "lineseparator" => some Category.lineSeparator.table
  | "zp" | "paragraphseparator" => some Category.paragraphSeparator.table
  | "c" | "other" => some ((Category.members Category.other).union Category.unassigned)
  | "cc" | "control" | "cntrl" => some Category.control.table
  | "cf" | "format" => some Category.format.table
  | "co" | "privateuse" => some Category.privateUse.table
  | "cn" | "unassigned" => some Category.unassigned
  | "any" => some .every
  | "ascii" => some CharSet.ascii
  | "assigned" => some Category.unassigned.compl
  | _ => none

/-- The characters with a property that holds or does not, in a category or in a
script, by its name. -/
def propertySet? (key : String) : Option CharSet :=
  match BinaryProperty.ofName? key with
  | some p => some p.members
  | none => (categorySet? key).or ((Script.ofName? key).map (·.members))

/-- Splits a text around the first place where `mark` stands. -/
def splitAround? (mark : List Char) : List Char → Option (List Char × List Char)
  | [] => none
  | c :: cs =>
    if mark.isPrefixOf (c :: cs) then some ([], (c :: cs).drop mark.length)
    else (splitAround? mark cs).map fun (before, after) => (c :: before, after)

/-- The characters with a value of a property: the general category, the script, or
the scripts that they are used in. -/
def valueSet? (name value : List Char) : Option CharSet :=
  let key := propertyKey value
  match propertyKey name with
  | "gc" | "generalcategory" => categorySet? key
  | "sc" | "script" => (Script.ofName? key).map (·.members)
  | "scx" | "scriptextensions" => (Script.ofName? key).map (·.extended)
  | _ => none

/-- A property as written between braces: a name, or the name of a property and its
value with `!=`, `:` or `=` between them. The flag says that the characters
without the value are meant. -/
def namedSet? (text : List Char) : Option (Bool × CharSet) :=
  match splitAround? ['!', '='] text with
  | some (name, value) => (valueSet? name value).map ((true, ·))
  | none =>
    match (splitAround? [':'] text).orElse fun _ => splitAround? ['='] text with
    | some (name, value) => (valueSet? name value).map ((false, ·))
    | none => (propertySet? (propertyKey text)).map ((false, ·))

end PredictiveParsing.Pattern
