import PredictiveParsing.Grammar.Symbol

/-!
Sets of terminals, one for each state, and the repeated passes that let them grow
until they stop growing.
-/
namespace PredictiveParsing.Grammar

/-- A set of terminals, each listed once. -/
abbrev TerminalSet := List Terminal

namespace TerminalSet

/-- The set with further members. -/
def addAll (s : TerminalSet) (ts : List Terminal) : TerminalSet :=
  ts.foldl (fun s t => s.insert t) s

/-- The members without epsilon. -/
def withoutEpsilon (s : TerminalSet) : TerminalSet :=
  s.filter (· ≠ .epsilon)

/-- The members in order. -/
def sorted (s : TerminalSet) : List Terminal :=
  s.mergeSort Terminal.le

end TerminalSet

/-- The sets of some states. -/
abbrev SetTable := List (String × TerminalSet)

namespace SetTable

/-- The set of a state, if it has one. -/
def get? (table : SetTable) (state : String) : Option TerminalSet :=
  table.lookup state

/-- Whether the state has a set and the terminal is in it. -/
def holds (table : SetTable) (state : String) (t : Terminal) : Bool :=
  match table.get? state with
  | some s => s.contains t
  | none => false

/-- Adds terminals to the set of a state, which may be a new one. -/
def add (table : SetTable) (state : String) (ts : List Terminal) : SetTable :=
  match table with
  | [] => [(state, TerminalSet.addAll [] ts)]
  | (key, s) :: more =>
    if key = state then (key, TerminalSet.addAll s ts) :: more
    else (key, s) :: SetTable.add more state ts

/-- The number of members of all sets together. -/
def size (table : SetTable) : Nat :=
  table.foldr (fun row n => row.2.length + n) 0

/-- Makes passes until one adds nothing, at most `limit` of them; gives the sets
and the number of passes. Sets only grow, so a pass that adds something shows in
the size. -/
def saturate (pass : SetTable → SetTable) : Nat → SetTable → SetTable × Nat
  | 0, table => (table, 0)
  | limit + 1, table =>
    let next := pass table
    if table.size < next.size then
      let (final, passes) := saturate pass limit next
      (final, passes + 1)
    else (next, 1)

end SetTable
end PredictiveParsing.Grammar
