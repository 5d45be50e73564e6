import PredictiveParsing.Numeral.Reading
import PredictiveParsing.Numeral.Shortest

/-!
The values that actions compute, and the conversions between them.
-/
namespace PredictiveParsing.Action

/-- What kind of value it is. -/
inductive Kind where
  | int
  | float
  | str
  | bool
deriving DecidableEq, Repr

/-- The name of a kind in messages. -/
def Kind.name : Kind → String
  | int => "int"
  | float => "float"
  | str => "str"
  | bool => "bool"

/-- A value: an integer of 64 bits, a floating-point number, a text or a truth
value. -/
inductive Value where
  | int (n : Int64)
  | float (x : Float)
  | str (s : String)
  | bool (b : Bool)
deriving Repr

namespace Value

/-- The kind of a value. -/
def kind : Value → Kind
  | int _ => .int
  | float _ => .float
  | str _ => .str
  | bool _ => .bool

/-- A value as text; texts stand for themselves. -/
def text : Value → String
  | int n => Numeral.integerText n.toInt
  | float x => Numeral.floatText x
  | str s => s
  | bool b => if b then "true" else "false"

/-- The floating-point number nearest to a number. -/
def toFloat? : Value → Option Float
  | int n => some (Float.ofInt n.toInt)
  | float x => some x
  | str _ | bool _ => none

end Value
end PredictiveParsing.Action
