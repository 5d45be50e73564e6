/-!
How a grammar is compiled and how its inputs are parsed.
-/
namespace PredictiveParsing.Parsing

/-- The options of a grammar. -/
structure Options where
  /-- Refuse a grammar where several rules of a state can begin with one token. -/
  rejectOverlap : Bool
  /-- Check the actions against the number of children of their rules. -/
  checkActions : Bool
  /-- Refuse an input of which only a beginning is parsed. -/
  requireEnd : Bool
  /-- How deep states may nest. -/
  maxDepth : Nat
deriving DecidableEq, Repr

/-- Overlaps are allowed, actions are checked, the whole input is parsed, and
states nest at most 512 deep. -/
def Options.standard : Options :=
  ⟨false, true, true, 512⟩

end PredictiveParsing.Parsing
