import PredictiveParsing.Text.Blank
import PredictiveParsing.Unicode.Width

/-!
Tables drawn with plain characters. A cell may hold several lines; a column is
as wide as the widest line in it and a row as high as its highest cell.
-/
namespace PredictiveParsing.Text

/-- The rows of a table, each with its cells from left to right. -/
abbrev Grid := List (List String)

namespace Grid

/-- The width of a cell: that of its widest line. -/
def cellWidth (cell : String) : Nat :=
  (lines cell.toList).foldl (fun w line => max w (Unicode.lineWidth line)) 0

/-- The widths of the columns. -/
def columnWidths (grid : Grid) : List Nat :=
  (List.range (grid.foldl (fun n row => max n row.length) 0)).map fun i =>
    grid.foldl (fun w row => max w (cellWidth (row.getD i ""))) 0

/-- The line between two rows. -/
def rule (widths : List Nat) : String :=
  "+" ++ String.join (widths.map fun w => String.ofList (List.replicate (w + 2) '-') ++ "+")

/-- The text filled up with blanks to the width, one blank added at each side. -/
def padded (width : Nat) (line : List Char) : String :=
  " " ++ String.ofList (line ++ List.replicate (width + 1 - Unicode.lineWidth line) ' ')

/-- The lines of text that a row takes. -/
def rowLines (widths : List Nat) (row : List String) : List String :=
  let cells := row.map fun cell => lines cell.toList
  let height := cells.foldl (fun h cell => max h cell.length) 1
  (List.range height).map fun i =>
    "|" ++ String.join ((List.range widths.length).map fun j =>
      padded (widths.getD j 0) ((cells.getD j []).getD i []) ++ "|")

/-- The table as text, without a line feed at its end. -/
def render (grid : Grid) : String :=
  let widths := grid.columnWidths
  "\n".intercalate
    (rule widths :: grid.flatMap fun row => rowLines widths row ++ [rule widths])

end Grid
end PredictiveParsing.Text
