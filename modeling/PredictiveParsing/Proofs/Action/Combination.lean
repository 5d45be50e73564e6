import PredictiveParsing.Action.Reader

/-!
The readers as combinations. What a reader makes of tokens is a result or a fault, and the
tokens that it leaves or refuses; the readers of the action language are put together from a few
combinations of such readings, by the next token or one after the other.
-/
namespace PredictiveParsing.Action

/-- What is made of tokens, and those that are left; after a fault, those that are refused. -/
abbrev Reading (α : Type) := List Token → Except CodeFault α × List Token

namespace Reading

variable {α β : Type}

/-- Takes nothing. -/
def give (a : α) : Reading α :=
  fun s => (.ok a, s)

/-- Takes nothing and refuses what is there. -/
def refuse (fault : CodeFault) : Reading α :=
  fun s => (.error fault, s)

/-- Goes on with the result. -/
def andThen (p : Reading α) (q : α → Reading β) : Reading β :=
  fun s =>
    match p s with
    | (.ok a, rest) => q a rest
    | (.error fault, rest) => (.error fault, rest)

/-- Takes the mark and goes on with `p`, or else goes on with `q`. -/
def onMark (m : Mark) (p q : Reading α) : Reading α :=
  fun s =>
    match following? m s with
    | some ⟨rest, _⟩ => p rest
    | none => q s

/-- Takes the mark, which must come next. -/
def require (m : Mark) (text : String) (p : Reading α) : Reading α :=
  onMark m p (refuse (.expectedMark text))

/-- Takes a token and goes on as it demands, or refuses it. -/
def take (next : Token → Except CodeFault (Reading α)) (atEnd : CodeFault) : Reading α
  | [] => (.error atEnd, [])
  | t :: rest =>
    match next t with
    | .ok p => p rest
    | .error fault => (.error fault, t :: rest)

/-- Takes an operator of the level and goes on as it demands, or else takes nothing. -/
def onOperator (level : Nat) (p : (Expr → Expr → Expr) → Reading α) (a : α) : Reading α :=
  fun s =>
    match joining? level s with
    | some (join, ⟨rest, _⟩) => p join rest
    | none => (.ok a, s)

/-- What a reader that counts its tokens gives. -/
def ofResult {bound : List Token → Prop} :
    Except Refusal (α × {rest : List Token // bound rest}) → Except CodeFault α × List Token
  | .ok (a, ⟨rest, _⟩) => (.ok a, rest)
  | .error r => (.error r.fault, r.rest)

theorem bound_of_ofResult {bound : List Token → Prop}
    {x : Except Refusal (α × {rest : List Token // bound rest})} {a : α} {rest : List Token}
    (h : ofResult x = (.ok a, rest)) : bound rest := by
  rcases x with r | ⟨b, left, inside⟩
  · cases h
  · cases h
    exact inside

section Readers

def expr : Reading Expr := fun s => ofResult (readExpr s)

def binary (level : Nat) : Reading Expr := fun s => ofResult (readBinary level s)

def tail (level : Nat) (left : Expr) : Reading Expr := fun s => ofResult (readTail level left s)

def unary : Reading Expr := fun s => ofResult (readUnary s)

def primary : Reading Expr := fun s => ofResult (readPrimary s)

def arguments : Reading (List Expr) := fun s => ofResult (readArguments s)

variable {level : Nat} {s rest : List Token} {e : Expr}

theorem length_of_expr (h : expr s = (.ok e, rest)) : rest.length < s.length :=
  bound_of_ofResult h

theorem length_of_binary (h : binary level s = (.ok e, rest)) : rest.length < s.length :=
  bound_of_ofResult h

theorem length_of_unary (h : unary s = (.ok e, rest)) : rest.length < s.length :=
  bound_of_ofResult h

theorem length_of_primary (h : primary s = (.ok e, rest)) : rest.length < s.length :=
  bound_of_ofResult h

theorem length_of_arguments {es : List Expr} (h : arguments s = (.ok es, rest)) :
    rest.length < s.length :=
  bound_of_ofResult h

end Readers

/-- Behind a test: the two branches, or nothing. -/
def branches (test : Expr) : Reading Expr :=
  onMark .question
    (expr.andThen fun a => require .colon ":" (expr.andThen fun b => give (.cond test a b)))
    (give test)

theorem expr_eq : expr = (binary 5).andThen branches := by
  funext s
  rw [expr, readExpr, andThen, binary]
  rcases readBinary 5 s with r | ⟨test, s₁, _⟩
  · rfl
  simp only [ofResult, branches, onMark]
  rcases following? .question s₁ with _ | ⟨s₂, _⟩
  · rfl
  simp only [andThen, expr]
  rcases readExpr s₂ with r | ⟨a, s₃, _⟩
  · rfl
  simp only [ofResult, require, onMark]
  rcases following? .colon s₃ with _ | ⟨s₄, _⟩
  · rfl
  simp only [andThen, expr]
  rcases readExpr s₄ with r | ⟨b, s₅, _⟩ <;> rfl

theorem binary_zero : binary 0 = unary := by
  funext s
  rw [binary, readBinary, unary]

theorem binary_succ (level : Nat) :
    binary (level + 1) = (binary level).andThen (tail level) := by
  funext s
  rw [binary, readBinary, andThen, binary]
  rcases readBinary level s with r | ⟨left, s₁, _⟩
  · rfl
  simp only [ofResult, tail]
  rcases readTail level left s₁ with r | ⟨e, s₂, _⟩ <;> rfl

/-- Behind an operator: the right operand, and more of the like if the operator chains. -/
def joined (level : Nat) (left : Expr) (join : Expr → Expr → Expr) : Reading Expr :=
  (binary level).andThen fun right =>
    if chains (level + 1) then tail level (join left right) else give (join left right)

theorem tail_eq (level : Nat) (left : Expr) :
    tail level left = onOperator (level + 1) (joined level left) left := by
  funext s
  rw [tail, readTail, onOperator]
  rcases joining? (level + 1) s with _ | ⟨join, s₁, _⟩
  · rfl
  simp only [joined, andThen, binary]
  rcases readBinary level s₁ with r | ⟨right, s₂, _⟩
  · rfl
  by_cases chain : chains (level + 1) = true
  · simp only [ofResult, chain, if_true, tail]
    rcases readTail level (join left right) s₂ with r | ⟨e, s₃, _⟩ <;> rfl
  · simp only [ofResult, chain]
    rfl

/-- Behind a name: it is a truth value, the function of a call, or a variable. -/
def named (x : String) : Reading Expr :=
  if x = "true" then give (.literal (.bool true))
  else if x = "false" then give (.literal (.bool false))
  else
    onMark .openParen
      (onMark .closeParen (give (.call x [])) (arguments.andThen fun es => give (.call x es)))
      (give (.var x))

/-- Behind the first token of a primary. -/
def begun : Token → Except CodeFault (Reading Expr)
  | .int n => .ok (give (.literal (.int n)))
  | .float x => .ok (give (.literal (.float x)))
  | .str t => .ok (give (.literal (.str t)))
  | .child index => .ok (give (.child index))
  | .name x => .ok (named x)
  | .mark m =>
    if m = .openParen then .ok (expr.andThen fun e => require .closeParen ")" (give e))
    else .error .expectedExpression

theorem primary_eq : primary = take begun .unexpectedEnd := by
  funext s
  rw [primary]
  cases s with
  | nil =>
      rw [readPrimary]
      rfl
  | cons t s₁ =>
      cases t with
      | int _ | float _ | str _ | child _ =>
          rw [readPrimary]
          rfl
      | name x =>
          rw [readPrimary, take, begun, named]
          by_cases yes : x = "true"
          · simp only [yes, if_true]
            rfl
          by_cases no : x = "false"
          · simp only [no]
            rfl
          simp only [yes, no, if_false, onMark]
          rcases following? .openParen s₁ with _ | ⟨s₂, _⟩
          · rfl
          simp only
          rcases following? .closeParen s₂ with _ | ⟨s₃, _⟩
          · simp only [andThen, arguments]
            rcases readArguments s₂ with r | ⟨es, s₃, _⟩ <;> rfl
          · rfl
      | mark m =>
          rw [readPrimary, take, begun]
          by_cases opens : m = .openParen
          · simp only [opens, if_true, andThen, expr]
            rcases readExpr s₁ with r | ⟨e, s₂, _⟩
            · rfl
            simp only [ofResult, require, onMark]
            rcases following? .closeParen s₂ with _ | ⟨s₃, _⟩ <;> rfl
          · simp only [opens, if_false]
            rfl

theorem unary_eq :
    unary = onMark .minus (unary.andThen fun e => give (.neg e))
      (onMark .bang (unary.andThen fun e => give (.not e)) primary) := by
  funext s
  rw [unary, readUnary, onMark]
  rcases following? .minus s with _ | ⟨s₁, _⟩
  · simp only [onMark]
    rcases following? .bang s with _ | ⟨s₁, _⟩
    · rfl
    simp only [andThen, unary]
    rcases readUnary s₁ with r | ⟨e, s₂, _⟩ <;> rfl
  · simp only [andThen, unary]
    rcases readUnary s₁ with r | ⟨e, s₂, _⟩ <;> rfl

/-- Behind an argument: the end of the arguments, or one more. -/
def further (e : Expr) : Reading (List Expr) :=
  onMark .closeParen (give [e])
    (require .comma "," (arguments.andThen fun es => give (e :: es)))

theorem arguments_eq : arguments = expr.andThen further := by
  funext s
  rw [arguments, readArguments, andThen, expr]
  rcases readExpr s with r | ⟨e, s₁, _⟩
  · rfl
  simp only [ofResult, further, onMark]
  rcases following? .closeParen s₁ with _ | ⟨s₂, _⟩
  · simp only [require, onMark]
    rcases following? .comma s₁ with _ | ⟨s₂, _⟩
    · rfl
    simp only [andThen, arguments]
    rcases readArguments s₂ with r | ⟨es, s₃, _⟩ <;> rfl
  · rfl

end Reading

end PredictiveParsing.Action
