import PredictiveParsing.Text.Blank

/-!
Grammars as they are declared: named patterns, and rules whose symbols are still
plain names.
-/
namespace PredictiveParsing.Grammar

/-- A token with the pattern of its text. -/
structure TokenDeclaration where
  name : String
  pattern : String
deriving DecidableEq, Repr

/-- A rule of a state. -/
structure RuleDeclaration where
  state : String
  symbols : List String
  action : String
deriving DecidableEq, Repr

/-- A rule whose symbols are the words of a text. -/
def RuleDeclaration.ofWords (state symbols action : String) : RuleDeclaration :=
  ⟨state, Text.words symbols, action⟩

/-- The tokens and the rules of a grammar, each in the order of declaration. -/
structure Declarations where
  tokens : List TokenDeclaration
  rules : List RuleDeclaration
deriving DecidableEq, Repr

end PredictiveParsing.Grammar
