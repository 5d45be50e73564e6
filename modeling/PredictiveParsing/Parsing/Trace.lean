import PredictiveParsing.Parsing.Run
import PredictiveParsing.Text.Grid

/-!
The steps of a run as text.
-/
namespace PredictiveParsing.Parsing

open Text (Grid)

namespace Step

/-- The name of the next token, or that of the end of the input. -/
def lookaheadName (s : Step) : String :=
  match s.lookahead with
  | some t => t.name
  | none => Grammar.endName

/-- What happens in the step, in words. -/
def actionText (s : Step) : String :=
  match s.action with
  | .expand a viaFollow =>
    s.symbol ++ " -> " ++ a.text ++ (if viaFollow then " (follow)" else "")
  | .take text => "match " ++ Text.quoted text
  | .unexpected expected => "error: expected " ++ expected.text
  | .recursionLimit => "error: recursion limit"
  | .noProgress => "error: no progress"

/-- The symbol, indented by the nesting depth. -/
def indentedSymbol (s : Step) : String :=
  String.join (List.replicate s.depth "  ") ++ s.symbol

end Step

/-- A table of the steps, numbered from one. -/
def traceGrid (steps : List Step) : Grid :=
  ["Step", "Symbol", "Position", "Lookahead", "Action"] ::
    steps.zipIdx.map fun (s, i) =>
      [Numeral.integerText (i + 1 : Nat), s.indentedSymbol, Numeral.integerText s.position,
        s.lookaheadName, s.actionText]

end PredictiveParsing.Parsing
