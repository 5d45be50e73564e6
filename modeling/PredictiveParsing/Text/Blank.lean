/-!
Blank characters, and what they separate: trimming text and splitting it into
words. Blank are the characters with the white space property.
-/
namespace PredictiveParsing.Text

/-- White space: the controls from tab to carriage return, the space, the next
line control, the no-break spaces and the separators. -/
def isBlank (c : Char) : Bool :=
  ('\t' ≤ c && c ≤ '\r') || c = ' ' || c = '\x85' || c = '\xa0' || c = '\u1680' ||
    ('\u2000' ≤ c && c ≤ '\u200a') || c = '\u2028' || c = '\u2029' || c = '\u202f' ||
    c = '\u205f' || c = '\u3000'

/-- The text without the blanks at its two ends. -/
def trim (cs : List Char) : List Char :=
  ((cs.dropWhile isBlank).reverse.dropWhile isBlank).reverse

/-- The pieces between the characters that separate; there is always one more
piece than separators. -/
def pieces (separates : Char → Bool) : List Char → List (List Char)
  | [] => [[]]
  | c :: cs =>
    if separates c then [] :: pieces separates cs
    else
      match pieces separates cs with
      | [] => [[c]]
      | piece :: more => (c :: piece) :: more

/-- The lines of a text, an empty one after a final line feed included. -/
def lines (cs : List Char) : List (List Char) :=
  pieces (· = '\n') cs

/-- The words of a text: its pieces between blanks that are not empty. -/
def words (text : String) : List String :=
  ((pieces isBlank text.toList).filter (!·.isEmpty)).map String.ofList

end PredictiveParsing.Text
