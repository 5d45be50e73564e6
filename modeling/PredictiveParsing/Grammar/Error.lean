import PredictiveParsing.Action.Error

/-!
Why declarations make no grammar, and the message for each case.
-/
namespace PredictiveParsing.Grammar

/-- A fault of declared tokens and rules. -/
inductive GrammarError where
  | duplicateToken (name : String)
  /-- A rule of the state mentions a name that is not declared. -/
  | unknownSymbol (state name : String)
  | missingStart
  | leftRecursion (state : String)
  /-- Two rules of the state begin with the same symbol. -/
  | ambiguousRules (state : String)
  /-- The pattern of the token is malformed. -/
  | invalidPattern (name : String)
  | reservedName (name : String)
  /-- The name is that of a token and of a state. -/
  | conflictingSymbol (name : String)
  /-- A rule of the state has no symbols. -/
  | emptyRule (state : String)
  | invalidAction (state : String) (cause : Action.ActionError)
  /-- Several rules of the state can start with the token. -/
  | overlappingRules (state token : String)
deriving DecidableEq, Repr

/-- The message for a fault. -/
def GrammarError.message : GrammarError → String
  | duplicateToken name => "multiple definitions of token " ++ name
  | unknownSymbol state name => "unknown token/rule " ++ name ++ " referenced in state " ++ state
  | missingStart => "start rule \"s\" is not defined"
  | leftRecursion state => "left recursion in state " ++ state
  | ambiguousRules state => "two rules of state " ++ state ++ " start with the same symbol"
  | invalidPattern name => "token " ++ name ++ " has an invalid pattern"
  | reservedName name => name ++ " is a reserved name"
  | conflictingSymbol name => name ++ " is declared both as a token and as a state"
  | emptyRule state =>
    "state " ++ state ++ " has a rule without symbols, use EPS for an empty rule"
  | invalidAction state cause =>
    "invalid action code in state " ++ state ++ ": " ++ cause.message
  | overlappingRules state token =>
    "more than one rule of state " ++ state ++ " can start with " ++ token

end PredictiveParsing.Grammar
