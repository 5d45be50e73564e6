import PredictiveParsing.Action.Error
import PredictiveParsing.Action.Expr
import PredictiveParsing.Numeral.Binary
import PredictiveParsing.Text.Blank

/-!
The value of a program for given children. Integers never wrap: an operation
whose exact result needs more than 64 bits overflows. An integer and a
floating-point number meet as floating-point numbers.
-/
namespace PredictiveParsing.Action

open Numeral (int64?)

/-- The values of the variables, the latest assignment first. -/
abbrev Locals := List (String × Value)

/-- An integer result, if it has at most 64 bits. -/
def exactly (n : Int) : Except ActionError Value :=
  match int64? n with
  | some i => .ok (.int i)
  | none => .error .overflow

/-- Arithmetic on integers. Division and remainder truncate; the remainder exists
only where the quotient does. -/
def Arithmetic.onIntegers (op : Arithmetic) (a b : Int) : Except ActionError Value :=
  match op with
  | add => exactly (a + b)
  | sub => exactly (a - b)
  | mul => exactly (a * b)
  | div => if b = 0 then .error .divisionByZero else exactly (a.tdiv b)
  | rem =>
    if b = 0 then .error .divisionByZero
    else
      match int64? (a.tdiv b) with
      | some _ => exactly (a.tmod b)
      | none => .error .overflow

/-- Arithmetic on floating-point numbers; zero of either sign divides nothing. -/
def Arithmetic.onFloats (op : Arithmetic) (x y : Float) : Except ActionError Value :=
  match op with
  | add => .ok (.float (x + y))
  | sub => .ok (.float (x - y))
  | mul => .ok (.float (x * y))
  | div => if y == 0 then .error .divisionByZero else .ok (.float (x / y))
  | rem => if y == 0 then .error .divisionByZero else .ok (.float (Numeral.remainder x y))

/-- Arithmetic on values. Two texts can be added. -/
def Arithmetic.apply (op : Arithmetic) (a b : Value) : Except ActionError Value :=
  match op, a, b with
  | .add, .str s, .str t => .ok (.str (s ++ t))
  | op, .int m, .int n => op.onIntegers m.toInt n.toInt
  | op, a, b =>
    match a.toFloat?, b.toFloat? with
    | some x, some y => op.onFloats x y
    | _, _ => .error (.type (.operands op.name [a.kind, b.kind]))

/-- The order of two texts, character by character. -/
def orderTexts (s t : String) : Ordering :=
  if s < t then .lt else if s = t then .eq else .gt

/-- The order of two truth values: false comes first. -/
def orderBools : Bool → Bool → Ordering
  | false, true => .lt
  | true, false => .gt
  | _, _ => .eq

/-- The order of two floating-point numbers; there is none beside NaN. -/
def orderFloats? (x y : Float) : Option Ordering :=
  if x < y then some .lt else if x == y then some .eq else if y < x then some .gt else none

/-- The order of two values of one kind, or of two numbers. -/
def order? (a b : Value) : Option Ordering :=
  match a, b with
  | .str s, .str t => some (orderTexts s t)
  | .bool s, .bool t => some (orderBools s t)
  | a, b =>
    match a.toFloat?, b.toFloat? with
    | some x, some y => orderFloats? x y
    | _, _ => none

/-- Whether a comparison holds of operands in this order. -/
def Comparison.holds (op : Comparison) (o : Ordering) : Bool :=
  match op with
  | eq => o == .eq
  | ne => o != .eq
  | lt => o == .lt
  | le => o != .gt
  | gt => o == .gt
  | ge => o != .lt

/-- Compares two values. Values without an order are different and cannot be
compared otherwise. -/
def Comparison.apply (op : Comparison) (a b : Value) : Except ActionError Bool :=
  match op, order? a b with
  | op, some o => .ok (op.holds o)
  | .eq, none => .ok false
  | .ne, none => .ok true
  | op, none => .error (.type (.operands op.name [a.kind, b.kind]))

/-- The integer part of a floating-point number. -/
def truncate (x : Float) : Except ActionError Value :=
  if x.isNaN || x.isInf then .error (.invalidNumber (Numeral.floatText x))
  else exactly (Numeral.Binary.ofFloat x).truncated

/-- The integer that a value stands for. -/
def toInt : Value → Except ActionError Value
  | .int n => .ok (.int n)
  | .float x => truncate x
  | .bool b => .ok (.int (if b then 1 else 0))
  | .str s =>
    match Numeral.readInt64? (Text.trim s.toList) with
    | some n => .ok (.int n)
    | none => .error (.invalidNumber s)

/-- The floating-point number that a value stands for. -/
def toFloat : Value → Except ActionError Value
  | .int n => .ok (.float (Float.ofInt n.toInt))
  | .float x => .ok (.float x)
  | .bool b => .ok (.float (if b then 1 else 0))
  | .str s =>
    match Numeral.readFloat? (Text.trim s.toList) with
    | some x => .ok (.float x)
    | none => .error (.invalidNumber s)

/-- The number of characters of a text. -/
def length : Value → Except ActionError Value
  | .str s => .ok (.int (Int64.ofNat s.length))
  | v => .error (.type (.operands "len" [v.kind]))

/-- The functions, by name. -/
def function? (name : String) : Option (Value → Except ActionError Value) :=
  match name with
  | "int" => some toInt
  | "float" => some toFloat
  | "str" => some fun v => .ok (.str v.text)
  | "len" => some length
  | _ => none

/-- Calls a function, which takes one argument. -/
def invoke (name : String) (arguments : List Value) : Except ActionError Value :=
  match function? name, arguments with
  | none, _ => .error (.unknownFunction name)
  | some f, [v] => f v
  | some _, vs => .error (.type (.argumentCount name vs.length))

/-- A value as a truth value, for the operation that needs one. -/
def truth (operation : String) : Value → Except ActionError Bool
  | .bool b => .ok b
  | v => .error (.type (.operands operation [v.kind]))

/-- The opposite of a number. -/
def negate : Value → Except ActionError Value
  | .int n => exactly (-n.toInt)
  | .float x => .ok (.float (-x))
  | v => .error (.type (.operands "-" [v.kind]))

mutual

/-- The value of an expression, for the children of a rule and the variables. The
operands are evaluated from the left, and those of `&&`, `||` and the conditional
only where they count. -/
def Expr.eval (children : List Value) (locals : Locals) : Expr → Except ActionError Value
  | .literal v => .ok v
  | .child index =>
    match children[index]? with
    | some v => .ok v
    | none => .error (.missingChild index children.length)
  | .var name =>
    match locals.lookup name with
    | some v => .ok v
    | none => .error (.unknownVariable name)
  | .neg e => do negate (← e.eval children locals)
  | .not e => do
    let b ← truth "!" (← e.eval children locals)
    pure (.bool !b)
  | .arith op a b => do
    let x ← a.eval children locals
    let y ← b.eval children locals
    op.apply x y
  | .compare op a b => do
    let x ← a.eval children locals
    let y ← b.eval children locals
    let r ← op.apply x y
    pure (.bool r)
  | .and a b => do
    let x ← truth "&&" (← a.eval children locals)
    if x then
      let y ← truth "&&" (← b.eval children locals)
      pure (.bool y)
    else pure (.bool false)
  | .or a b => do
    let x ← truth "||" (← a.eval children locals)
    if x then pure (.bool true)
    else
      let y ← truth "||" (← b.eval children locals)
      pure (.bool y)
  | .cond test a b => do
    let x ← truth "?:" (← test.eval children locals)
    if x then a.eval children locals else b.eval children locals
  | .call name arguments => do
    let vs ← Expr.evalList children locals arguments
    invoke name vs

/-- The values of several expressions, from left to right. -/
def Expr.evalList (children : List Value) (locals : Locals) :
    List Expr → Except ActionError (List Value)
  | [] => .ok []
  | e :: es => do
    let v ← e.eval children locals
    let vs ← Expr.evalList children locals es
    pure (v :: vs)

end

/-- Runs statements. `last` is the value of the last expression statement so far,
which the program has if it ends without a result. -/
def runStatements (children : List Value) :
    Locals → Option Value → List Statement → Except ActionError Value
  | _, some v, [] => .ok v
  | _, none, [] => .error .noValue
  | locals, last, .assign name e :: more => do
    let v ← e.eval children locals
    runStatements children ((name, v) :: locals) last more
  | locals, _, .result e :: _ => e.eval children locals
  | locals, _, .value e :: more => do
    let v ← e.eval children locals
    runStatements children locals (some v) more

/-- The value of a program; a program without statements gives the empty text. -/
def Program.run (p : Program) (children : List Value) : Except ActionError Value :=
  if p.isEmpty then .ok (.str "") else runStatements children [] none p

/-- Checks that a rule with `arity` children has every child that the program asks
for; otherwise names the highest one that it asks for. -/
def Program.check (p : Program) (arity : Nat) : Except ActionError Unit :=
  match p.childIndices.max? with
  | some index => if arity ≤ index then .error (.missingChild index arity) else .ok ()
  | none => .ok ()

end PredictiveParsing.Action
