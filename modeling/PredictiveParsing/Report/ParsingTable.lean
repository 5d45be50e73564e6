import PredictiveParsing.Grammar.Follow
import PredictiveParsing.Grammar.PredictiveTable
import PredictiveParsing.Report.Sets

/-!
The printed predictive table, a row for each state and a column for each token
and the end of the input.
-/
namespace PredictiveParsing.Report

open Grammar
open Text (Grid)

/-- The rule that a cell shows: the one that the table has for the token, or the one
that derives nothing where the terminal can follow the state. -/
def cellRule? (table : PredictiveTable) (follow : SetTable) (state : String) (t : Terminal) :
    Option Nat :=
  let chosen := match t with
    | .token name => table.rule? state name
    | _ => none
  match chosen with
  | some index => some index
  | none => if follow.holds state t then table.emptyRule? state else none

/-- The text of a cell. -/
def cellText (table : PredictiveTable) (follow : SetTable) (p : Production) (t : Terminal) :
    String :=
  match (cellRule? table follow p.lhs t).bind fun index => p.alternatives[index]? with
  | some a => p.lhs ++ " → " ++ a.text
  | none => "-"

/-- The terminals that have a column. -/
def columns (g : Grammar) : List Terminal :=
  (g.tokens.map fun t => Terminal.token t.name) ++ [.endOfInput]

/-- The predictive table as a grid, by state in the order of names. -/
def parsingGrid (g : Grammar) (table : PredictiveTable) (follow : SetTable) : Grid :=
  ("PARSING TABLE (STATE/TOKEN)" :: (columns g).map Terminal.text) ::
    (g.productions.mergeSort fun a b => a.lhs ≤ b.lhs).map fun p =>
      p.lhs :: (columns g).map (cellText table follow p)

end PredictiveParsing.Report
