import PredictiveParsing.Action.Value

/-!
Programs of the action language. A program is a list of statements; expressions
have no effects, so the order in which operands are evaluated shows only in
which of several failures is reported.
-/
namespace PredictiveParsing.Action

/-- The arithmetic operators. -/
inductive Arithmetic where
  | add
  | sub
  | mul
  | div
  | rem
deriving DecidableEq, Repr

/-- The name of an operator in messages. -/
def Arithmetic.name : Arithmetic → String
  | add => "Add"
  | sub => "Sub"
  | mul => "Mul"
  | div => "Div"
  | rem => "Rem"

/-- The comparison operators. -/
inductive Comparison where
  | eq
  | ne
  | lt
  | le
  | gt
  | ge
deriving DecidableEq, Repr

/-- The name of an operator in messages. -/
def Comparison.name : Comparison → String
  | eq => "Eq"
  | ne => "Neq"
  | lt => "Lt"
  | le => "Lte"
  | gt => "Gt"
  | ge => "Gte"

/-- An expression. -/
inductive Expr where
  | literal (v : Value)
  /-- The value of a child of the rule, counted from zero. -/
  | child (index : Nat)
  | var (name : String)
  | neg (e : Expr)
  | not (e : Expr)
  | arith (op : Arithmetic) (a b : Expr)
  | compare (op : Comparison) (a b : Expr)
  | and (a b : Expr)
  | or (a b : Expr)
  /-- A choice between `a` and `b`. -/
  | cond (test a b : Expr)
  | call (function : String) (arguments : List Expr)

/-- A statement. -/
inductive Statement where
  /-- Names the value of an expression. -/
  | assign (name : String) (e : Expr)
  /-- Ends the program with a value. -/
  | result (e : Expr)
  /-- Gives the value of the program unless a later statement does. -/
  | value (e : Expr)

/-- The expression of a statement. -/
def Statement.expr : Statement → Expr
  | assign _ e | result e | value e => e

/-- A program of the action language. -/
abbrev Program := List Statement

mutual

/-- The child indices that occur in an expression, from left to right. -/
def Expr.childIndices : Expr → List Nat
  | .literal _ | .var _ => []
  | .child index => [index]
  | .neg e | .not e => e.childIndices
  | .arith _ a b | .compare _ a b | .and a b | .or a b => a.childIndices ++ b.childIndices
  | .cond test a b => test.childIndices ++ a.childIndices ++ b.childIndices
  | .call _ arguments => Expr.childIndicesOfList arguments

/-- The child indices that occur in the arguments of a call. -/
def Expr.childIndicesOfList : List Expr → List Nat
  | [] => []
  | e :: es => e.childIndices ++ Expr.childIndicesOfList es

end

/-- The child indices that occur in a program. -/
def Program.childIndices (p : Program) : List Nat :=
  p.flatMap fun s => s.expr.childIndices

end PredictiveParsing.Action
