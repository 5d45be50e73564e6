import PredictiveParsing.Action.Expr
import PredictiveParsing.Action.Token

/-!
Reading a program from its tokens. From the loosest to the tightest, expressions
are built by the conditional, which nests to the right, by `||`, by `&&`, by one
comparison, by the sums and products, which nest to the left, and by the signs.
Every reader gives back the tokens that are left, with the proof that there are
fewer of them.
-/
namespace PredictiveParsing.Action

/-- Why a list of tokens is refused, and the tokens from the first one on that
could not be accepted. -/
structure Refusal where
  fault : CodeFault
  rest : List Token

/-- Fewer tokens than `s` has. -/
abbrev Fewer (s : List Token) := { rest : List Token // rest.length < s.length }

/-- At most as many tokens as `s` has. -/
abbrev NoMore (s : List Token) := { rest : List Token // rest.length ≤ s.length }

/-- What follows the mark `m`, if the tokens begin with it. -/
def following? (m : Mark) (s : List Token) : Option (Fewer s) :=
  match s with
  | .mark k :: rest => if k = m then some ⟨rest, by simp⟩ else none
  | _ => none

/-- The binary operator that a mark is at a level; products are at level 1 and
the disjunction is at level 5. -/
def Mark.joins? (level : Nat) (m : Mark) : Option (Expr → Expr → Expr) :=
  match level, m with
  | 1, .star => some (.arith .mul)
  | 1, .slash => some (.arith .div)
  | 1, .percent => some (.arith .rem)
  | 2, .plus => some (.arith .add)
  | 2, .minus => some (.arith .sub)
  | 3, .eq => some (.compare .eq)
  | 3, .ne => some (.compare .ne)
  | 3, .lt => some (.compare .lt)
  | 3, .le => some (.compare .le)
  | 3, .gt => some (.compare .gt)
  | 3, .ge => some (.compare .ge)
  | 4, .and => some .and
  | 5, .or => some .or
  | _, _ => none

/-- The operator of a level that the tokens begin with, and what follows it. -/
def joining? (level : Nat) (s : List Token) : Option ((Expr → Expr → Expr) × Fewer s) :=
  match s with
  | .mark m :: rest => (m.joins? level).map fun join => (join, ⟨rest, by simp⟩)
  | _ => none

/-- Whether operators of a level may follow one another; comparisons may not. -/
def chains (level : Nat) : Bool :=
  level != 3

mutual

/-- Reads an expression: a conditional or what binds tighter. -/
def readExpr (s : List Token) : Except Refusal (Expr × Fewer s) :=
  match readBinary 5 s with
  | .error e => .error e
  | .ok (test, ⟨s₁, h₁⟩) =>
    match following? .question s₁ with
    | none => .ok (test, ⟨s₁, h₁⟩)
    | some ⟨s₂, h₂⟩ =>
      match readExpr s₂ with
      | .error e => .error e
      | .ok (a, ⟨s₃, h₃⟩) =>
        match following? .colon s₃ with
        | none => .error ⟨.expectedMark ":", s₃⟩
        | some ⟨s₄, h₄⟩ =>
          match readExpr s₄ with
          | .error e => .error e
          | .ok (b, ⟨s₅, h₅⟩) => .ok (.cond test a b, ⟨s₅, by omega⟩)
termination_by (s.length, 9)

/-- Reads operands joined by the operators up to a level. -/
def readBinary (level : Nat) (s : List Token) : Except Refusal (Expr × Fewer s) :=
  match level with
  | 0 => readUnary s
  | level + 1 =>
    match readBinary level s with
    | .error e => .error e
    | .ok (left, ⟨s₁, h₁⟩) =>
      match readTail level left s₁ with
      | .error e => .error e
      | .ok (e, ⟨s₂, h₂⟩) => .ok (e, ⟨s₂, by omega⟩)
termination_by (s.length, level + 2)

/-- Goes on after the left operand of the operators of the level above the
given one. -/
def readTail (level : Nat) (left : Expr) (s : List Token) : Except Refusal (Expr × NoMore s) :=
  match joining? (level + 1) s with
  | none => .ok (left, ⟨s, Nat.le_refl _⟩)
  | some (join, ⟨s₁, h₁⟩) =>
    match readBinary level s₁ with
    | .error e => .error e
    | .ok (right, ⟨s₂, h₂⟩) =>
      if chains (level + 1) then
        match readTail level (join left right) s₂ with
        | .error e => .error e
        | .ok (e, ⟨s₃, h₃⟩) => .ok (e, ⟨s₃, by omega⟩)
      else .ok (join left right, ⟨s₂, by omega⟩)
termination_by (s.length, 0)

/-- Reads signs and what they stand before. -/
def readUnary (s : List Token) : Except Refusal (Expr × Fewer s) :=
  match following? .minus s with
  | some ⟨s₁, h₁⟩ =>
    match readUnary s₁ with
    | .error e => .error e
    | .ok (e, ⟨s₂, h₂⟩) => .ok (.neg e, ⟨s₂, by omega⟩)
  | none =>
    match following? .bang s with
    | some ⟨s₁, h₁⟩ =>
      match readUnary s₁ with
      | .error e => .error e
      | .ok (e, ⟨s₂, h₂⟩) => .ok (.not e, ⟨s₂, by omega⟩)
    | none => readPrimary s
termination_by (s.length, 1)

/-- Reads a literal, a child, a variable, a call or an expression in
parentheses. -/
def readPrimary (s : List Token) : Except Refusal (Expr × Fewer s) :=
  match s with
  | [] => .error ⟨.unexpectedEnd, []⟩
  | .int n :: s₁ => .ok (.literal (.int n), ⟨s₁, by simp⟩)
  | .float x :: s₁ => .ok (.literal (.float x), ⟨s₁, by simp⟩)
  | .str t :: s₁ => .ok (.literal (.str t), ⟨s₁, by simp⟩)
  | .child index :: s₁ => .ok (.child index, ⟨s₁, by simp⟩)
  | .name x :: s₁ =>
    if x = "true" then .ok (.literal (.bool true), ⟨s₁, by simp⟩)
    else if x = "false" then .ok (.literal (.bool false), ⟨s₁, by simp⟩)
    else
      match following? .openParen s₁ with
      | none => .ok (.var x, ⟨s₁, by simp⟩)
      | some ⟨s₂, h₂⟩ =>
        match following? .closeParen s₂ with
        | some ⟨s₃, h₃⟩ => .ok (.call x [], ⟨s₃, by simp only [List.length_cons]; omega⟩)
        | none =>
          match readArguments s₂ with
          | .error e => .error e
          | .ok (arguments, ⟨s₃, h₃⟩) =>
            .ok (.call x arguments, ⟨s₃, by simp only [List.length_cons]; omega⟩)
  | .mark m :: s₁ =>
    if m = .openParen then
      match readExpr s₁ with
      | .error e => .error e
      | .ok (e, ⟨s₂, h₂⟩) =>
        match following? .closeParen s₂ with
        | none => .error ⟨.expectedMark ")", s₂⟩
        | some ⟨s₃, h₃⟩ => .ok (e, ⟨s₃, by simp only [List.length_cons]; omega⟩)
    else .error ⟨.expectedExpression, .mark m :: s₁⟩
termination_by (s.length, 0)

/-- Reads one or more arguments and the closing parenthesis. -/
def readArguments (s : List Token) : Except Refusal (List Expr × Fewer s) :=
  match readExpr s with
  | .error e => .error e
  | .ok (e, ⟨s₁, h₁⟩) =>
    match following? .closeParen s₁ with
    | some ⟨s₂, h₂⟩ => .ok ([e], ⟨s₂, by omega⟩)
    | none =>
      match following? .comma s₁ with
      | none => .error ⟨.expectedMark ",", s₁⟩
      | some ⟨s₂, h₂⟩ =>
        match readArguments s₂ with
        | .error e => .error e
        | .ok (more, ⟨s₃, h₃⟩) => .ok (e :: more, ⟨s₃, by omega⟩)
termination_by (s.length, 10)

end

/-- Reads a statement. A name before an assignment mark is assigned to, whatever
the name; the name `return` comes before that. -/
def readStatement (s : List Token) : Except Refusal (Statement × Fewer s) :=
  match s with
  | .name x :: s₁ =>
    if x = "return" then
      match readExpr s₁ with
      | .error e => .error e
      | .ok (e, ⟨s₂, h₂⟩) => .ok (.result e, ⟨s₂, by simp only [List.length_cons]; omega⟩)
    else
      match following? .assign s₁ with
      | some ⟨s₂, h₂⟩ =>
        match readExpr s₂ with
        | .error e => .error e
        | .ok (e, ⟨s₃, h₃⟩) => .ok (.assign x e, ⟨s₃, by simp only [List.length_cons]; omega⟩)
      | none =>
        match readExpr (.name x :: s₁) with
        | .error e => .error e
        | .ok (e, rest) => .ok (.value e, rest)
  | s =>
    match readExpr s with
    | .error e => .error e
    | .ok (e, rest) => .ok (.value e, rest)

/-- Reads a program: statements with separators between them, and any number of
separators more. -/
def readProgram (s : List Token) : Except Refusal Program :=
  match s with
  | [] => .ok []
  | t :: s₁ =>
    match following? .separator (t :: s₁) with
    | some ⟨s₂, h₂⟩ =>
      have : s₂.length < s₁.length + 1 := h₂
      readProgram s₂
    | none =>
      match readStatement (t :: s₁) with
      | .error e => .error e
      | .ok (statement, ⟨[], _⟩) => .ok [statement]
      | .ok (statement, ⟨u :: s₂, h₂⟩) =>
        match following? .separator (u :: s₂) with
        | none => .error ⟨.expectedStatementEnd, u :: s₂⟩
        | some ⟨s₃, h₃⟩ =>
          have : s₃.length < s₁.length + 1 := Nat.lt_trans h₃ h₂
          match readProgram s₃ with
          | .error e => .error e
          | .ok p => .ok (statement :: p)
termination_by s.length
decreasing_by all_goals simp only [List.length_cons]; omega

/-- The byte offset of what was refused in code of `total` bytes: that of the
first refused token, or the end of the code. -/
def Refusal.offset (r : Refusal) (total : Nat) (lexemes : List Lexeme) : Nat :=
  match lexemes[lexemes.length - r.rest.length]? with
  | some l => l.offset
  | none => total

/-- Reads a program from its text. -/
def Program.ofText (text : String) : Except ActionError Program :=
  match tokenize text.toList with
  | .error e => .error e
  | .ok lexemes =>
    match readProgram (lexemes.map (·.token)) with
    | .error r => .error (.malformed (r.offset (Text.byteLength text.toList) lexemes) r.fault)
    | .ok p => .ok p

end PredictiveParsing.Action
