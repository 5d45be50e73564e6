import PredictiveParsing.Unicode.Visibility

/-!
Text between quotes. The quote, the backslash and the controls with a letter of
their own are written with a backslash; other characters that would not show,
or that would attach to the character before them, as a code point in braces.
-/
namespace PredictiveParsing.Text

/-- A code point in hexadecimal, lower case and without leading zeros. -/
def codePoint (c : Char) : String :=
  String.ofList (Nat.toDigits 16 c.toNat)

/-- How a character is written between two of the given quotes. -/
def escaped (quote c : Char) : String :=
  if c = '\x00' then "\\0"
  else if c = '\t' then "\\t"
  else if c = '\n' then "\\n"
  else if c = '\r' then "\\r"
  else if c = '\\' then "\\\\"
  else if c = quote then "\\" ++ c.toString
  else if Unicode.isVisible c then c.toString
  else "\\u\x7b" ++ codePoint c ++ "\x7d"

/-- The text in double quotes. -/
def quoted (text : String) : String :=
  "\"" ++ String.join (text.toList.map (escaped '"')) ++ "\""

/-- One character in single quotes. -/
def quotedChar (c : Char) : String :=
  "'" ++ escaped '\'' c ++ "'"

end PredictiveParsing.Text
