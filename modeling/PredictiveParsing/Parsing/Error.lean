import PredictiveParsing.Action.Error
import PredictiveParsing.Grammar.Symbol
import PredictiveParsing.Parsing.Token

/-!
Why an input is not parsed, and the message for each case.
-/
namespace PredictiveParsing.Parsing

/-- What would have been accepted. -/
inductive Expectation where
  /-- One of these terminals, by name. -/
  | names (names : List String)
  | endOfInput
  | declaredState
deriving DecidableEq, Repr

/-- What would have been accepted, in words. -/
def Expectation.text : Expectation → String
  | names [] => "nothing"
  | names [name] => name
  | names ns => "one of " ++ ", ".intercalate ns
  | endOfInput => "end of input"
  | declaredState => "a declared state"

/-- The next token, in words; there is none at the end of the input. -/
def foundText : Option Token → String
  | some t => t.name ++ " " ++ Text.quoted t.text
  | none => "end of input"

/-- A failure to parse. -/
inductive ParseError where
  /-- No token matches at the byte offset, where this character stands. -/
  | noToken (offset : Nat) (found : Char)
  /-- The token at the position, which starts at the byte offset, is not one of
  those expected. -/
  | unexpected (position offset : Nat) (found : Option Token) (expected : Expectation)
  | recursionLimit (position limit : Nat)
  /-- The state is to be expanded while it is being expanded at the same
  position. -/
  | noProgress (state : String) (position : Nat)
  | action (state : String) (cause : Action.ActionError)
deriving DecidableEq, Repr

namespace ParseError

/-- The message for a failure. -/
def message : ParseError → String
  | noToken offset found =>
    "unable to match any token on position " ++ Numeral.integerText offset ++ " (found " ++
      Text.quotedChar found ++ ")"
  | unexpected position _ found expected =>
    "parse error at position " ++ Numeral.integerText position ++ ": expected " ++
      expected.text ++ ", found " ++ foundText found
  | recursionLimit position limit =>
    "nesting deeper than " ++ Numeral.integerText limit ++ " states at position " ++
      Numeral.integerText position
  | noProgress state position =>
    "state " ++ state ++ " re-entered at position " ++ Numeral.integerText position ++
      " without consuming input"
  | action state cause => "action of state " ++ state ++ " failed: " ++ cause.message

/-- Where the input fails: the position of a token, or a byte offset where there
is no token. -/
def position? : ParseError → Option Nat
  | noToken offset _ => some offset
  | unexpected position _ _ _ => some position
  | recursionLimit position _ => some position
  | noProgress _ position => some position
  | action _ _ => none

end ParseError
end PredictiveParsing.Parsing
