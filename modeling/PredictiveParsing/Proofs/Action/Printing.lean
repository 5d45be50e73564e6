import Mathlib.Data.List.Forall2
import PredictiveParsing.Action.Token
import PredictiveParsing.Proofs.Action.Occurrence

/-!
Programs in writing. An operand stands in parentheses where its own operator is looser than
those that are read there without. Tokens are separated by single spaces, and statements by a
semicolon or a line feed.
-/
namespace PredictiveParsing.Action

def Arithmetic.mark : Arithmetic → Mark
  | add => .plus
  | sub => .minus
  | mul => .star
  | div => .slash
  | rem => .percent

/-- The level of an operator: products bind tighter than sums. -/
def Arithmetic.level : Arithmetic → Nat
  | mul | div | rem => 1
  | add | sub => 2

def Comparison.mark : Comparison → Mark
  | eq => .eq
  | ne => .ne
  | lt => .lt
  | le => .le
  | gt => .gt
  | ge => .ge

def Value.token : Value → Token
  | .int n => .int n
  | .float x => .float x
  | .str s => .str s
  | .bool b => .name (if b then "true" else "false")

/-- The level of the outermost operator, which is above those of tighter ones. -/
def Expr.level : Expr → Nat
  | .literal _ | .child _ | .var _ | .neg _ | .not _ | .call .. => 0
  | .arith op _ _ => op.level
  | .compare .. => 3
  | .and .. => 4
  | .or .. => 5
  | .cond .. => 6

/-- The tokens of an expression, in parentheses if its operator is above the level. -/
def enclose (level : Nat) (e : Expr) (tokens : List Token) : List Token :=
  if e.level ≤ level then tokens else .mark .openParen :: tokens ++ [.mark .closeParen]

mutual

/-- The tokens of an expression, without parentheses around it. The operators that nest to the
left may have their like as a left operand only. -/
def Expr.tokens : Expr → List Token
  | .literal v => [v.token]
  | .child index => [.child index]
  | .var name => [.name name]
  | .neg e => .mark .minus :: enclose 0 e e.tokens
  | .not e => .mark .bang :: enclose 0 e e.tokens
  | .arith op a b =>
    enclose op.level a a.tokens ++ .mark op.mark :: enclose (op.level - 1) b b.tokens
  | .compare op a b => enclose 2 a a.tokens ++ .mark op.mark :: enclose 2 b b.tokens
  | .and a b => enclose 4 a a.tokens ++ .mark .and :: enclose 3 b b.tokens
  | .or a b => enclose 5 a a.tokens ++ .mark .or :: enclose 4 b b.tokens
  | .cond test a b =>
    enclose 5 test test.tokens ++ .mark .question :: a.tokens ++ .mark .colon :: b.tokens
  | .call function arguments =>
    .name function :: .mark .openParen ::
      [.mark .comma].intercalate (Expr.tokensOfList arguments) ++ [.mark .closeParen]

def Expr.tokensOfList : List Expr → List (List Token)
  | [] => []
  | e :: es => e.tokens :: Expr.tokensOfList es

end

def Statement.tokens : Statement → List Token
  | .assign name e => .name name :: .mark .assign :: e.tokens
  | .result e => .name "return" :: e.tokens
  | .value e => e.tokens

def Mark.text : Mark → String
  | or => "||"
  | and => "&&"
  | eq => "=="
  | ne => "!="
  | le => "<="
  | ge => ">="
  | lt => "<"
  | gt => ">"
  | plus => "+"
  | minus => "-"
  | star => "*"
  | slash => "/"
  | percent => "%"
  | bang => "!"
  | assign => "="
  | question => "?"
  | colon => ":"
  | openParen => "("
  | closeParen => ")"
  | comma => ","
  | separator => ";"

/-- A character between quotes. -/
def escape (quote c : Char) : List Char :=
  if c = '\\' ∨ c = quote then ['\\', c] else [c]

def inQuotes (quote : Char) (s : String) : List Char :=
  quote :: s.toList.flatMap (escape quote) ++ [quote]

/-- The ways to write a token. Either quote will do for a string. -/
def Token.spellings : Token → List (List Char)
  | .int n => [(Numeral.integerText n.toInt).toList]
  | .float _ => []
  | .str s => [inQuotes '"' s, inQuotes '\'' s]
  | .name s => [s.toList]
  | .child index => ['$' :: (Numeral.integerText index).toList]
  | .mark m => [m.text.toList]

def Statement.Written (s : Statement) (cs : List Char) : Prop :=
  ∃ pieces, List.Forall₂ (fun t piece => piece ∈ t.spellings) s.tokens pieces ∧
    cs = [' '].intercalate pieces

/-- The characters write the program. Spaces around the separators are optional. -/
inductive Program.Written : Program → List Char → Prop
  | empty : Written [] []
  | last {s : Statement} {cs : List Char} (written : s.Written cs) : Written [s] cs
  | next {s : Statement} {p : Program} {cs ds : List Char} {separator : Char}
      (before behind : Nat) (written : s.Written cs) (separates : separator = ';' ∨ separator = '\n')
      (more : Written p ds) :
      Written (s :: p) (cs ++ List.replicate before ' ' ++
        separator :: List.replicate behind ' ' ++ ds)

/-- A letter or an underscore, and then letters, digits and underscores. -/
def isIdentifier : List Char → Bool
  | [] => false
  | c :: cs => isNameStart c && cs.all isNameChar

/-- The names that stand for something else. -/
def reservedNames : List String :=
  ["true", "false", "return"]

/-- A name that can be given to a variable. -/
def IsName (name : String) : Prop :=
  isIdentifier name.toList = true ∧ name ∉ reservedNames

theorem IsName.ne {name : String} (h : IsName name) (word : String)
    (reserved : word ∈ reservedNames) :
    name ≠ word := by
  rintro rfl
  exact h.2 reserved

/-- A literal that can be written: it is neither negative nor a floating-point number. -/
def Value.Printable : Value → Prop
  | .int n => 0 ≤ n.toInt
  | .float _ => False
  | .str _ | .bool _ => True

mutual

/-- An expression that can be written. The index of a child has 64 bits. -/
def Expr.Printable : Expr → Prop
  | .literal v => v.Printable
  | .child index => index < 0x10000000000000000
  | .var name => IsName name
  | .neg e | .not e => e.Printable
  | .arith _ a b | .compare _ a b | .and a b | .or a b => a.Printable ∧ b.Printable
  | .cond test a b => test.Printable ∧ a.Printable ∧ b.Printable
  | .call function arguments => IsName function ∧ Expr.PrintableList arguments

def Expr.PrintableList : List Expr → Prop
  | [] => True
  | e :: es => e.Printable ∧ Expr.PrintableList es

end

namespace Expr

theorem printableList_iff {es : List Expr} : PrintableList es ↔ ∀ e ∈ es, e.Printable := by
  induction es with
  | nil => simp [PrintableList]
  | cons e es ih => rw [PrintableList, ih, List.forall_mem_cons]

theorem tokensOfList_eq (es : List Expr) : tokensOfList es = es.map tokens := by
  induction es with
  | nil => rfl
  | cons e es ih => rw [tokensOfList, ih, List.map_cons]

theorem tokens_ne_nil (e : Expr) : e.tokens ≠ [] := by
  cases e <;> simp [tokens]

end Expr

/-- A token that stands in an expression, where no statement begins or ends. -/
def Token.InExpr : Token → Prop
  | .int n => 0 ≤ n.toInt
  | .float _ => False
  | .str _ => True
  | .name s => isIdentifier s.toList = true ∧ s ≠ "return"
  | .child index => index < 0x10000000000000000
  | .mark m => m ≠ .assign ∧ m ≠ .separator

section InExpr

variable {ts us : List Token}

private theorem inExpr_enclose (level : Nat) (e : Expr) (h : ∀ t ∈ ts, t.InExpr) :
    ∀ t ∈ enclose level e ts, t.InExpr := by
  rw [enclose]
  split
  · exact h
  · simp only [List.cons_append, List.mem_cons, List.mem_append, List.not_mem_nil, or_false]
    rintro t (rfl | ht | rfl)
    · exact ⟨by decide, by decide⟩
    · exact h t ht
    · exact ⟨by decide, by decide⟩

private theorem inExpr_join {m : Mark} (h : ∀ t ∈ ts, t.InExpr) (operator : Token.InExpr (.mark m))
    (k : ∀ t ∈ us, t.InExpr) : ∀ t ∈ ts ++ .mark m :: us, t.InExpr :=
  List.forall_mem_append.mpr ⟨h, List.forall_mem_cons.mpr ⟨operator, k⟩⟩

private theorem inExpr_intercalate {tss : List (List Token)} (h : ∀ ts ∈ tss, ∀ t ∈ ts, t.InExpr) :
    ∀ t ∈ [Token.mark .comma].intercalate tss, t.InExpr := by
  induction tss with
  | nil => exact fun _ ht => absurd ht List.not_mem_nil
  | cons ts tss ih =>
      obtain ⟨first, more⟩ := List.forall_mem_cons.mp h
      cases tss with
      | nil => rwa [List.intercalate_singleton]
      | cons us tss =>
          rw [List.intercalate_cons_cons, List.append_assoc]
          exact inExpr_join first ⟨by decide, by decide⟩ (ih more)

theorem Expr.Printable.inExpr {e : Expr} (h : e.Printable) : ∀ t ∈ e.tokens, t.InExpr := by
  induction e with
  | literal v =>
      rw [tokens, List.forall_mem_singleton]
      cases v with
      | int n => exact h
      | float x => exact h.elim
      | str s => trivial
      | bool b => cases b <;> exact ⟨by decide, by decide⟩
  | child index =>
      rw [tokens, List.forall_mem_singleton]
      exact h
  | var name =>
      rw [tokens, List.forall_mem_singleton]
      exact ⟨h.1, h.ne "return" (by decide)⟩
  | neg e ih | not e ih =>
      have inside := inExpr_enclose 0 e (ih h)
      exact List.forall_mem_cons.mpr ⟨⟨by decide, by decide⟩, inside⟩
  | arith op a b iha ihb =>
      have left := iha h.1
      have right := ihb h.2
      refine inExpr_join (inExpr_enclose _ a left) ?_ (inExpr_enclose _ b right)
      cases op <;> exact ⟨by decide, by decide⟩
  | compare op a b iha ihb =>
      have left := iha h.1
      have right := ihb h.2
      refine inExpr_join (inExpr_enclose _ a left) ?_ (inExpr_enclose _ b right)
      cases op <;> exact ⟨by decide, by decide⟩
  | and a b iha ihb | or a b iha ihb =>
      have left := iha h.1
      have right := ihb h.2
      exact inExpr_join (inExpr_enclose _ a left) ⟨by decide, by decide⟩ (inExpr_enclose _ b right)
  | cond test a b iht iha ihb =>
      have question := iht h.1
      have left := iha h.2.1
      have right := ihb h.2.2
      exact inExpr_join
        (inExpr_join (inExpr_enclose _ test question) ⟨by decide, by decide⟩ left)
        ⟨by decide, by decide⟩ right
  | call function arguments ih =>
      have name : Token.InExpr (.name function) :=
        ⟨h.1.1, h.1.ne "return" (by decide)⟩
      have inside : ∀ ts ∈ tokensOfList arguments, ∀ t ∈ ts, t.InExpr := by
        rw [tokensOfList_eq, List.forall_mem_map]
        exact fun e he => ih e he (printableList_iff.mp h.2 e he)
      rw [tokens]
      refine List.forall_mem_append.mpr ⟨?_, List.forall_mem_singleton.mpr ⟨by decide, by decide⟩⟩
      exact List.forall_mem_cons.mpr
        ⟨name, List.forall_mem_cons.mpr ⟨⟨by decide, by decide⟩, inExpr_intercalate inside⟩⟩

end InExpr

def Statement.Printable : Statement → Prop
  | .assign name e => IsName name ∧ e.Printable
  | .result e | .value e => e.Printable

def Program.Printable (p : Program) : Prop :=
  ∀ s ∈ p, s.Printable

end PredictiveParsing.Action
