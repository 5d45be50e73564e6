/-!
Symbols, rules and terminals of a grammar, and how they are written.
-/
namespace PredictiveParsing.Grammar

/-- The name that stands for nothing in a rule. -/
def epsilonName : String := "EPS"

/-- The name of the end of input. -/
def endName : String := "$"

/-- The name of the state at which every derivation starts. -/
def startName : String := "s"

/-- A symbol of a rule. -/
inductive Symbol where
  | token (name : String)
  | state (name : String)
  | epsilon
deriving DecidableEq, Repr

/-- A symbol as it is shown. -/
def Symbol.text : Symbol → String
  | token name | state name => name
  | epsilon => "ε"

/-- What may begin or follow a piece of input. Epsilon stands for nothing at all
and the last one for the end of input. -/
inductive Terminal where
  | token (name : String)
  | epsilon
  | endOfInput
deriving DecidableEq, Repr

namespace Terminal

/-- The name of a terminal, with the reserved names for the two markers. -/
def name : Terminal → String
  | token name => name
  | epsilon => epsilonName
  | endOfInput => endName

/-- A terminal as it is shown. -/
def text : Terminal → String
  | token name => name
  | epsilon => "ε"
  | endOfInput => endName

/-- The order of terminals: tokens by name, then the two markers. -/
def le : Terminal → Terminal → Bool
  | token a, token b => a ≤ b
  | token _, _ => true
  | epsilon, token _ => false
  | epsilon, _ => true
  | endOfInput, endOfInput => true
  | endOfInput, _ => false

end Terminal

/-- One way to expand a state: the symbols, and the code of its action. -/
structure Alternative where
  symbols : List Symbol
  action : String
deriving DecidableEq, Repr

namespace Alternative

/-- Whether it is the rule of the one symbol epsilon. -/
def isEpsilon (a : Alternative) : Bool :=
  a.symbols == [.epsilon]

/-- The number of children that the rule gives its action. -/
def arity (a : Alternative) : Nat :=
  (a.symbols.filter (· ≠ .epsilon)).length

/-- The symbols as they are shown. -/
def text (a : Alternative) : String :=
  " ".intercalate (a.symbols.map Symbol.text)

end Alternative

/-- A state with its alternatives in the order of declaration. -/
structure Production where
  lhs : String
  alternatives : List Alternative
deriving DecidableEq, Repr

namespace Production

/-- The first alternative of the one symbol epsilon. -/
def epsilonAlternative? (p : Production) : Option Nat :=
  p.alternatives.findIdx? (·.isEpsilon)

/-- The production as it is shown. -/
def text (p : Production) : String :=
  p.lhs ++ " -> " ++
    (if p.alternatives.isEmpty then "ε" else " | ".intercalate (p.alternatives.map (·.text)))

end Production
end PredictiveParsing.Grammar
