import PredictiveParsing.Grammar.TerminalSet
import PredictiveParsing.Text.Grid

/-!
Printed FIRST and FOLLOW sets, by state in the order of names.
-/
namespace PredictiveParsing.Report

open Grammar (SetTable TerminalSet)
open Text (Grid)

/-- A truth value in words. -/
def boolText (b : Bool) : String :=
  if b then "true" else "false"

/-- The members of a set in order. -/
def setText (s : TerminalSet) : String :=
  " ".intercalate (s.sorted.map Grammar.Terminal.text)

/-- The sets ordered by the names of their states. -/
def byState (table : SetTable) : SetTable :=
  table.mergeSort fun a b => a.1 ≤ b.1

/-- A table of FIRST sets. -/
def firstGrid (table : SetTable) : Grid :=
  ["FIRST SET OF", "T"] :: (byState table).map fun (state, s) =>
    ["FIRST(" ++ state ++ ")",
      setText s ++ " (is_nullable: " ++ boolText (s.contains .epsilon) ++ ")"]

/-- A table of FOLLOW sets. -/
def followGrid (table : SetTable) : Grid :=
  ["FOLLOW SET OF", "T"] :: (byState table).map fun (state, s) =>
    ["FOLLOW(" ++ state ++ ")", setText s]

end PredictiveParsing.Report
