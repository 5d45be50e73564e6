import PredictiveParsing.Action.Value
import PredictiveParsing.Text.Quoted

/-!
What can go wrong with an action, while its code is read or when it runs, and
the message for each case.
-/
namespace PredictiveParsing.Action

/-- Why code is malformed. -/
inductive CodeFault where
  /-- Text that begins no token. -/
  | unexpectedText (slice : String)
  | unexpectedEnd
  /-- A mark is missing. -/
  | expectedMark (mark : String)
  | expectedExpression
  | expectedStatementEnd
deriving DecidableEq, Repr

/-- The message for malformed code, without its place. -/
def CodeFault.message : CodeFault → String
  | unexpectedText slice => "unexpected " ++ Text.quoted slice
  | unexpectedEnd => "unexpected end of action code"
  | expectedMark mark => "expected '" ++ mark ++ "'"
  | expectedExpression => "expected an expression"
  | expectedStatementEnd => "expected end of statement"

/-- Why an operation cannot be applied. -/
inductive TypeFault where
  /-- No meaning for operands of these kinds. -/
  | operands (operation : String) (kinds : List Kind)
  /-- A function of one argument with another number of them. -/
  | argumentCount (function : String) (given : Nat)
deriving DecidableEq, Repr

/-- The message for an operation that cannot be applied. -/
def TypeFault.message : TypeFault → String
  | operands operation kinds =>
    "cannot apply " ++ operation ++ " to " ++ " and ".intercalate (kinds.map Kind.name)
  | argumentCount function given =>
    function ++ "() takes 1 argument, " ++ Numeral.integerText given ++ " given"

/-- A failure of an action. Offsets count bytes of the code. -/
inductive ActionError where
  | malformed (offset : Nat) (fault : CodeFault)
  | missingChild (index len : Nat)
  | unknownVariable (name : String)
  | unknownFunction (name : String)
  | type (fault : TypeFault)
  | divisionByZero
  | overflow
  | invalidNumber (text : String)
  | noValue
deriving DecidableEq, Repr

/-- The message for a failure. -/
def ActionError.message : ActionError → String
  | malformed offset fault =>
    "syntax error at " ++ Numeral.integerText offset ++ ": " ++ fault.message
  | missingChild index len =>
    "child $" ++ Numeral.integerText index ++ " requested but the rule has " ++
      Numeral.integerText len ++ " children"
  | unknownVariable name => "unknown variable " ++ name
  | unknownFunction name => "unknown function " ++ name
  | type fault => "type error: " ++ fault.message
  | divisionByZero => "division by zero"
  | overflow => "integer overflow"
  | invalidNumber text => "cannot convert " ++ Text.quoted text ++ " to a number"
  | noValue => "action code produced no value"

end PredictiveParsing.Action
