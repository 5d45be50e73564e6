import PredictiveParsing.Grammar.Resolution
import PredictiveParsing.Report.Sets

/-!
The printed summary of a grammar.
-/
namespace PredictiveParsing.Report

open Text (Grid)

/-- Names in a row, or a word that there are none. -/
def namesText (names : List String) : String :=
  if names.isEmpty then "None" else ", ".intercalate names

/-- A table with the start state, the names of states and tokens, the patterns and
the productions. Tokens keep the order of declaration; states and productions are
ordered by name. -/
def cardGrid (g : Grammar) : Grid :=
  let productions := (g.productions.map fun p => ("Production for " ++ p.lhs, p.text)).mergeSort
    fun a b => a.1 < b.1 || (a.1 == b.1 && a.2 ≤ b.2)
  [["Start Symbol", Grammar.startName],
    ["Has ε-Rules", boolText g.hasEpsilonRules],
    ["States", namesText ((g.productions.map (·.lhs)).mergeSort)],
    ["Tokens", namesText (g.tokens.map (·.name))]] ++
    (g.tokens.map fun t => ["Token " ++ t.name, t.pattern]) ++
    productions.map fun (key, text) => [key, text]

end PredictiveParsing.Report
