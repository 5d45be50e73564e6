/-!
Searching in a text. Positions count characters from the start of the text.
-/
namespace PredictiveParsing.Text

/-- The part of a text from position `start` up to, and without, `stop`. -/
structure Span where
  start : Nat
  stop : Nat
deriving DecidableEq, Repr

/-- Finds the first match in a text that starts at a position or after it. The
whole text is given, so that what precedes the position can matter. -/
abbrev Matcher := List Char → Nat → Option Span

end PredictiveParsing.Text
