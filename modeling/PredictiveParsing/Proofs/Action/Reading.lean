import PredictiveParsing.Action.Reader
import PredictiveParsing.Proofs.Action.Printing

/-!
Reading back what was written. For each reader there is one lemma for each way it goes on. An
expression is read at the level of its operator or above it, as long as no tighter operator
comes behind it, and it can be the left operand of an operator of its own level where these
chain.
-/
namespace PredictiveParsing.Action

/-- The reader accepts with this result and leaves the rest. -/
def Accepts {α : Type} {bound : List Token → Prop}
    (x : Except Refusal (α × {rest : List Token // bound rest})) (a : α) (rest : List Token) : Prop :=
  ∃ h, x = .ok (a, ⟨rest, h⟩)

section Rules

variable {s s₁ s₂ s₃ s₄ rest : List Token} {a b e : Expr} {level : Nat} {m : Mark}

theorem following?_cons (m : Mark) (s : List Token) :
    following? m (.mark m :: s) = some ⟨s, Nat.lt_succ_self s.length⟩ := by
  simp [following?]

theorem following?_cons_ne {k : Mark} (h : k ≠ m) (s : List Token) :
    following? m (.mark k :: s) = none := by
  simp [following?, h]

theorem readPrimary_literal (v : Value) (s : List Token) :
    Accepts (readPrimary (v.token :: s)) (.literal v) s := by
  refine ⟨by simp, ?_⟩
  cases v with
  | int n | float x | str t => rw [Value.token, readPrimary]
  | bool b => cases b <;> simp [Value.token, readPrimary]

theorem readPrimary_child (index : Nat) (s : List Token) :
    Accepts (readPrimary (.child index :: s)) (.child index) s :=
  ⟨by simp, by rw [readPrimary]⟩

theorem readPrimary_var {name : String} (h : IsName name)
    (closed : following? .openParen s = none) :
    Accepts (readPrimary (.name name :: s)) (.var name) s := by
  refine ⟨by simp, ?_⟩
  rw [readPrimary]
  simp [h.ne "true" (by decide), h.ne "false" (by decide), closed]

theorem readPrimary_call_nil {name : String} (h : IsName name) (s : List Token) :
    Accepts (readPrimary (.name name :: .mark .openParen :: .mark .closeParen :: s))
      (.call name []) s := by
  refine ⟨by simp; omega, ?_⟩
  rw [readPrimary]
  simp [h.ne "true" (by decide), h.ne "false" (by decide), following?_cons]

theorem readPrimary_parentheses (h : Accepts (readExpr s) e (.mark .closeParen :: rest)) :
    Accepts (readPrimary (.mark .openParen :: s)) e rest := by
  obtain ⟨fewer, h⟩ := h
  refine ⟨by simp at fewer ⊢; omega, ?_⟩
  rw [readPrimary]
  simp [h, following?_cons]

theorem readArguments_last (h : Accepts (readExpr s) e (.mark .closeParen :: rest)) :
    Accepts (readArguments s) [e] rest := by
  obtain ⟨fewer, h⟩ := h
  refine ⟨by simp at fewer; omega, ?_⟩
  rw [readArguments]
  simp [h, following?_cons]

theorem readArguments_more {es : List Expr} (h : Accepts (readExpr s) e (.mark .comma :: s₁))
    (more : Accepts (readArguments s₁) es rest) : Accepts (readArguments s) (e :: es) rest := by
  obtain ⟨fewer, h⟩ := h
  obtain ⟨fewer', more⟩ := more
  refine ⟨by simp at fewer; omega, ?_⟩
  have another : following? .closeParen (.mark .comma :: s₁) = none := following?_cons_ne (by decide) _
  rw [readArguments]
  simp [h, another, following?_cons, more]

theorem readArguments_some {es : List Expr} (h : Accepts (readArguments s) es rest) :
    following? .closeParen s = none := by
  match s with
  | [] | .int _ :: _ | .float _ :: _ | .str _ :: _ | .name _ :: _ | .child _ :: _ => rfl
  | .mark k :: s =>
      refine following?_cons_ne (fun same => ?_) s
      subst same
      obtain ⟨_, h⟩ := h
      simp [readArguments, readExpr, readBinary, readUnary, readPrimary, following?] at h

theorem readPrimary_call {name : String} (h : IsName name) {arguments : List Expr}
    (read : Accepts (readArguments s) arguments rest) :
    Accepts (readPrimary (.name name :: .mark .openParen :: s)) (.call name arguments) rest := by
  have some := readArguments_some read
  obtain ⟨fewer, read⟩ := read
  refine ⟨by simp; omega, ?_⟩
  rw [readPrimary]
  simp [h.ne "true" (by decide), h.ne "false" (by decide), following?_cons, some, read]

theorem readUnary_minus (h : Accepts (readUnary s) e rest) :
    Accepts (readUnary (.mark .minus :: s)) (.neg e) rest := by
  obtain ⟨fewer, h⟩ := h
  refine ⟨by simp; omega, ?_⟩
  rw [readUnary]
  simp [following?_cons, h]

theorem readUnary_bang (h : Accepts (readUnary s) e rest) :
    Accepts (readUnary (.mark .bang :: s)) (.not e) rest := by
  obtain ⟨fewer, h⟩ := h
  have unsigned : following? .minus (.mark .bang :: s) = none := following?_cons_ne (by decide) _
  refine ⟨by simp; omega, ?_⟩
  rw [readUnary]
  simp [following?_cons, unsigned, h]

theorem readUnary_primary (h : Accepts (readPrimary s) e rest) : Accepts (readUnary s) e rest := by
  obtain ⟨fewer, h⟩ := h
  have unsigned : ∀ m, m ≠ .openParen → following? m s = none := by
    intro m hm
    match s with
    | [] | .int _ :: _ | .float _ :: _ | .str _ :: _ | .name _ :: _ | .child _ :: _ => rfl
    | .mark k :: s =>
        refine following?_cons_ne (fun same => ?_) s
        subst same
        rw [readPrimary, if_neg hm] at h
        cases h
  refine ⟨fewer, ?_⟩
  rw [readUnary]
  simp [unsigned, h]

theorem readBinary_succ (h : Accepts (readBinary level s) a s₁)
    (tail : Accepts (readTail level a s₁) e rest) : Accepts (readBinary (level + 1) s) e rest := by
  obtain ⟨fewer, h⟩ := h
  obtain ⟨noMore, tail⟩ := tail
  refine ⟨by omega, ?_⟩
  rw [readBinary]
  simp [h, tail]

theorem readTail_stop (h : joining? (level + 1) s = none) (e : Expr) :
    Accepts (readTail level e s) e s :=
  ⟨Nat.le_refl _, by rw [readTail, h]⟩

theorem joining?_cons {join : Expr → Expr → Expr} (h : m.joins? level = some join) (s : List Token) :
    joining? level (.mark m :: s) = some (join, ⟨s, Nat.lt_succ_self s.length⟩) := by
  simp [joining?, h]

theorem readTail_chain {join : Expr → Expr → Expr} (h : m.joins? (level + 1) = some join)
    (chain : chains (level + 1) = true) (right : Accepts (readBinary level s) b s₁)
    (tail : Accepts (readTail level (join a b) s₁) e rest) :
    Accepts (readTail level a (.mark m :: s)) e rest := by
  obtain ⟨fewer, right⟩ := right
  obtain ⟨noMore, tail⟩ := tail
  refine ⟨by simp; omega, ?_⟩
  rw [readTail]
  simp [joining?_cons h, right, chain, tail]

theorem readTail_once {join : Expr → Expr → Expr} (h : m.joins? (level + 1) = some join)
    (once : chains (level + 1) = false) (right : Accepts (readBinary level s) b rest) :
    Accepts (readTail level a (.mark m :: s)) (join a b) rest := by
  obtain ⟨fewer, right⟩ := right
  refine ⟨by simp; omega, ?_⟩
  rw [readTail]
  simp [joining?_cons h, right, once]

theorem readExpr_binary (h : Accepts (readBinary 5 s) e rest)
    (stop : following? .question rest = none) : Accepts (readExpr s) e rest := by
  obtain ⟨fewer, h⟩ := h
  refine ⟨fewer, ?_⟩
  rw [readExpr]
  simp [h, stop]

theorem readExpr_cond {test : Expr} (h : Accepts (readBinary 5 s) test (.mark .question :: s₁))
    (first : Accepts (readExpr s₁) a (.mark .colon :: s₂))
    (second : Accepts (readExpr s₂) b rest) : Accepts (readExpr s) (.cond test a b) rest := by
  obtain ⟨fewer, h⟩ := h
  obtain ⟨fewer₁, first⟩ := first
  obtain ⟨fewer₂, second⟩ := second
  refine ⟨by simp at fewer fewer₁; omega, ?_⟩
  rw [readExpr]
  simp [h, following?_cons, first, second]

end Rules

section Levels

/-- The level of the binary operator that the mark is. -/
def Mark.level : Mark → Nat
  | star | slash | percent => 1
  | plus | minus => 2
  | eq | ne | lt | le | gt | ge => 3
  | and => 4
  | or => 5
  | _ => 0

theorem Mark.level_of_joins? {level : Nat} {m : Mark} {join : Expr → Expr → Expr}
    (h : m.joins? level = some join) : m.level = level := by
  rw [joins?.eq_def] at h
  split at h <;> first | rfl | cases h

/-- What stands behind an expression goes on with no operator up to the level, and makes no
call of a name. -/
def Stops (level : Nat) (rest : List Token) : Prop :=
  following? .openParen rest = none ∧ ∀ k ≤ level, joining? k rest = none

variable {level : Nat} {ts us vs rest : List Token} {a b e : Expr} {m : Mark}

theorem Stops.mono {level' : Nat} (h : Stops level rest) (le : level' ≤ level) :
    Stops level' rest :=
  ⟨h.1, fun k hk => h.2 k (Nat.le_trans hk le)⟩

theorem stops_nil (level : Nat) : Stops level [] :=
  ⟨rfl, fun _ _ => rfl⟩

theorem joining?_eq_none (h : m.level ≠ level) (s : List Token) :
    joining? level (.mark m :: s) = none := by
  cases hj : m.joins? level with
  | none => simp [joining?, hj]
  | some join => exact absurd (Mark.level_of_joins? hj) h

/-- Behind an operand stands an operator of a higher level. -/
theorem stops_of_lt (h : level < m.level) (s : List Token) : Stops level (.mark m :: s) := by
  refine ⟨following?_cons_ne ?_ s, fun k hk => joining?_eq_none (by omega) s⟩
  rintro rfl
  cases h

/-- Behind an expression stands a mark that is no binary operator. -/
theorem stops_of_plain (h : m.level = 0) (closed : m ≠ .openParen) (s : List Token) :
    Stops level (.mark m :: s) := by
  refine ⟨following?_cons_ne closed s, fun k hk => ?_⟩
  by_cases hk : k = 0
  · subst hk
    simp [joining?, Mark.joins?]
  · exact joining?_eq_none (by omega) s

/-- The tokens are read as the expression at the level. -/
def Reads (level : Nat) (ts : List Token) (e : Expr) : Prop :=
  ∀ rest, Stops level rest → Accepts (readBinary level (ts ++ rest)) e rest

/-- The tokens are read as the left operand of what comes behind them at the next level. -/
def Begins (level : Nat) (ts : List Token) (e : Expr) : Prop :=
  ∀ rest whole behind, Stops level rest → Accepts (readTail level e rest) whole behind →
    Accepts (readBinary (level + 1) (ts ++ rest)) whole behind

/-- The tokens are read as the expression where any operator may stand. -/
def ReadsWhole (ts : List Token) (e : Expr) : Prop :=
  ∀ rest, Stops 5 rest → following? .question rest = none → Accepts (readExpr (ts ++ rest)) e rest

theorem Reads.begins (h : Reads level ts e) : Begins level ts e :=
  fun rest _ _ stops tail => readBinary_succ (h rest stops) tail

theorem Begins.reads (h : Begins level ts e) : Reads (level + 1) ts e :=
  fun rest stops => h rest e rest (stops.mono (Nat.le_succ level))
    (readTail_stop (stops.2 _ (Nat.le_refl _)) e)

theorem Reads.mono {level' : Nat} (h : Reads level ts e) (le : level ≤ level') :
    Reads level' ts e := by
  induction le with
  | refl => exact h
  | step _ ih => exact ih.begins.reads

/-- Operators that chain nest to the left. -/
theorem Begins.join {join : Expr → Expr → Expr} (h : m.joins? (level + 1) = some join)
    (chain : chains (level + 1) = true) (left : Begins level us a) (right : Reads level vs b) :
    Begins level (us ++ .mark m :: vs) (join a b) := by
  intro rest whole behind stops tail
  rw [List.append_assoc, List.cons_append]
  have operator : level < m.level := by rw [Mark.level_of_joins? h]; exact Nat.lt_succ_self level
  exact left _ whole behind (stops_of_lt operator _) (readTail_chain h chain (right rest stops) tail)

/-- An operator that does not chain stands once. -/
theorem Reads.join {join : Expr → Expr → Expr} (h : m.joins? (level + 1) = some join)
    (once : chains (level + 1) = false) (left : Reads level us a) (right : Reads level vs b) :
    Reads (level + 1) (us ++ .mark m :: vs) (join a b) := by
  intro rest stops
  rw [List.append_assoc, List.cons_append]
  have operator : level < m.level := by rw [Mark.level_of_joins? h]; exact Nat.lt_succ_self level
  exact readBinary_succ (left _ (stops_of_lt operator _))
    (readTail_once h once (right rest (stops.mono (Nat.le_succ level))))

theorem reads_of_primary (h : ∀ rest, Stops 0 rest → Accepts (readPrimary (ts ++ rest)) e rest) :
    Reads 0 ts e := by
  intro rest stops
  rw [readBinary]
  exact readUnary_primary (h rest stops)

theorem Reads.neg (h : Reads 0 ts e) : Reads 0 (.mark .minus :: ts) (.neg e) := by
  intro rest stops
  have inside := h rest stops
  rw [readBinary] at inside ⊢
  exact readUnary_minus inside

theorem Reads.not (h : Reads 0 ts e) : Reads 0 (.mark .bang :: ts) (.not e) := by
  intro rest stops
  have inside := h rest stops
  rw [readBinary] at inside ⊢
  exact readUnary_bang inside

theorem Reads.whole (h : Reads 5 ts e) : ReadsWhole ts e :=
  fun rest stops question => readExpr_binary (h rest stops) question

theorem ReadsWhole.cond {test : Expr} (h : Reads 5 ts test) (first : ReadsWhole us a)
    (second : ReadsWhole vs b) :
    ReadsWhole (ts ++ .mark .question :: us ++ .mark .colon :: vs) (.cond test a b) := by
  intro rest stops question
  have parts : ts ++ .mark .question :: us ++ .mark .colon :: vs ++ rest =
      ts ++ .mark .question :: (us ++ .mark .colon :: (vs ++ rest)) := by simp
  rw [parts]
  refine readExpr_cond (h _ (stops_of_plain rfl (by decide) _))
    (first _ (stops_of_plain rfl (by decide) _) (following?_cons_ne (by decide) _))
    (second rest stops question)

theorem ReadsWhole.parentheses (h : ReadsWhole ts e) :
    Reads 0 (.mark .openParen :: ts ++ [.mark .closeParen]) e := by
  refine reads_of_primary fun rest _ => ?_
  rw [List.cons_append, List.cons_append, List.append_assoc, List.singleton_append]
  exact readPrimary_parentheses
    (h _ (stops_of_plain rfl (by decide) _) (following?_cons_ne (by decide) _))

/-- Arguments are read one by one up to the closing parenthesis. -/
theorem readArguments_of_whole {es : List Expr} (some : es ≠ [])
    (each : ∀ e ∈ es, ReadsWhole e.tokens e) (rest : List Token) :
    Accepts (readArguments ([.mark .comma].intercalate (es.map Expr.tokens) ++
      .mark .closeParen :: rest)) es rest := by
  induction es with
  | nil => exact absurd rfl some
  | cons e es ih =>
      have first := each e List.mem_cons_self
      cases es with
      | nil =>
          rw [List.map_singleton, List.intercalate_singleton]
          exact readArguments_last
            (first _ (stops_of_plain rfl (by decide) _) (following?_cons_ne (by decide) _))
      | cons e' es =>
          rw [List.map_cons, List.map_cons, List.intercalate_cons_cons, ← List.map_cons,
            List.append_assoc, List.append_assoc]
          exact readArguments_more
            (first _ (stops_of_plain rfl (by decide) _) (following?_cons_ne (by decide) _))
            (ih (List.cons_ne_nil _ _) fun e he => each e (List.mem_cons_of_mem _ he))

/-- The tokens of an expression are read back: at its level and, if its operator chains, as
a left operand of the like. -/
structure ReadsBack (e : Expr) : Prop where
  whole : ReadsWhole e.tokens e
  reads : e.level ≤ 5 → Reads e.level e.tokens e
  begins : ∀ level < 5, e.level = level + 1 → chains (level + 1) = true → Begins level e.tokens e

namespace ReadsBack

theorem of_reads (h : Reads level e.tokens e) (here : e.level = level) (le : level ≤ 5)
    (once : ∀ k, level = k + 1 → chains (k + 1) = false) : ReadsBack e := by
  subst here
  refine ⟨(h.mono le).whole, fun _ => h, fun k _ same chain => ?_⟩
  rw [once k same] at chain
  cases chain

theorem of_begins (h : Begins level e.tokens e) (here : e.level = level + 1) (lt : level < 5) :
    ReadsBack e := by
  refine ⟨(h.reads.mono lt).whole, fun _ => here ▸ h.reads, fun k _ same _ => ?_⟩
  obtain rfl : level = k := by omega
  exact h

theorem enclosed (h : ReadsBack e) (le : level ≤ 5) : Reads level (enclose level e e.tokens) e := by
  rw [enclose]
  split
  · next tighter => exact (h.reads (Nat.le_trans tighter le)).mono tighter
  · exact h.whole.parentheses.mono (Nat.zero_le level)

theorem enclosed_begins (h : ReadsBack e) (lt : level < 5) (chain : chains (level + 1) = true) :
    Begins level (enclose (level + 1) e e.tokens) e := by
  rw [enclose]
  split
  · next tighter =>
      by_cases same : e.level = level + 1
      · exact h.begins level lt same chain
      · exact ((h.reads (by omega)).mono (by omega)).begins
  · exact (h.whole.parentheses.mono (Nat.zero_le level)).begins

/-- A chain of two operands that are read back. -/
theorem join {join : Expr → Expr → Expr} (level : Nat) (h : m.joins? (level + 1) = some join)
    (lt : level < 5) (chain : chains (level + 1) = true) (left : ReadsBack a) (right : ReadsBack b)
    (here : (join a b).level = level + 1)
    (written : (join a b).tokens =
      enclose (level + 1) a a.tokens ++ .mark m :: enclose level b b.tokens) :
    ReadsBack (join a b) := by
  refine of_begins ?_ here lt
  rw [written]
  exact (left.enclosed_begins lt chain).join h chain (right.enclosed (Nat.le_of_lt lt))

end ReadsBack

theorem Expr.Printable.readsBack {e : Expr} (h : e.Printable) : ReadsBack e := by
  have atom : ∀ {e : Expr}, e.level = 0 → Reads 0 e.tokens e → ReadsBack e :=
    fun here h => .of_reads h here (Nat.zero_le 5) fun _ => nofun
  -- an operand is read at the level of its place: as it is, or in parentheses as a primary
  induction e with
  | literal v => exact atom rfl (reads_of_primary fun rest _ => readPrimary_literal v rest)
  | child index => exact atom rfl (reads_of_primary fun rest _ => readPrimary_child index rest)
  | var name =>
      exact atom rfl (reads_of_primary fun rest stops => readPrimary_var h stops.1)
  | neg e ih =>
      have inside := ih h
      exact atom rfl (inside.enclosed (Nat.zero_le 5)).neg
  | not e ih =>
      have inside := ih h
      exact atom rfl (inside.enclosed (Nat.zero_le 5)).not
  | arith op a b iha ihb =>
      have left := iha h.1
      have right := ihb h.2
      cases op with
      | mul | div | rem =>
          exact .join 0 rfl (by decide) rfl left right rfl rfl
      | add | sub =>
          exact .join 1 rfl (by decide) rfl left right rfl rfl
  | compare op a b iha ihb =>
      have left := iha h.1
      have right := ihb h.2
      have operator : op.mark.joins? 3 = some (.compare op) := by cases op <;> rfl
      refine .of_reads ((left.enclosed (by decide)).join operator rfl (right.enclosed (by decide)))
        rfl (by decide) fun k hk => ?_
      cases hk
      rfl
  | and a b iha ihb =>
      have left := iha h.1
      have right := ihb h.2
      exact .join 3 rfl (by decide) rfl left right rfl rfl
  | or a b iha ihb =>
      have left := iha h.1
      have right := ihb h.2
      exact .join 4 rfl (by decide) rfl left right rfl rfl
  | cond test a b iht iha ihb =>
      have question := iht h.1
      have left := iha h.2.1
      have right := ihb h.2.2
      refine ⟨ReadsWhole.cond (question.enclosed (Nat.le_refl 5)) left.whole right.whole, ?_, ?_⟩
      · intro le
        cases Nat.not_succ_le_self 5 le
      · intro level lt here
        cases here
        cases Nat.lt_irrefl 5 lt
  | call function arguments ih =>
      have each : ∀ e ∈ arguments, ReadsWhole e.tokens e :=
        fun e he => (ih e he (printableList_iff.mp h.2 e he)).whole
      refine atom rfl (reads_of_primary fun rest _ => ?_)
      rw [tokens, tokensOfList_eq, List.cons_append, List.cons_append, List.cons_append,
        List.cons_append, List.append_assoc, List.singleton_append]
      cases arguments with
      | nil => exact readPrimary_call_nil h.1 rest
      | cons e es =>
          have read := readArguments_of_whole (List.cons_ne_nil e es) each rest
          exact readPrimary_call h.1 read

end Levels

section Statements

variable {s rest : List Token} {e : Expr}

/-- Behind a statement is the end of the program or a separator. -/
def EndsStatement : List Token → Prop
  | [] => True
  | t :: _ => t = .mark .separator

theorem EndsStatement.stops (h : EndsStatement rest) {level : Nat} : Stops level rest := by
  cases rest with
  | nil => exact stops_nil level
  | cons t rest =>
      obtain rfl := h
      exact stops_of_plain rfl (by decide) rest

theorem EndsStatement.following? (h : EndsStatement rest) {m : Mark} (ne : m ≠ .separator) :
    following? m rest = none := by
  cases rest with
  | nil => rfl
  | cons t rest =>
      obtain rfl := h
      exact following?_cons_ne ne.symm rest

theorem readStatement_result (h : Accepts (readExpr s) e rest) :
    Accepts (readStatement (.name "return" :: s)) (.result e) rest := by
  obtain ⟨fewer, h⟩ := h
  exact ⟨by simp; omega, by simp [readStatement, h]⟩

theorem readStatement_assign {name : String} (h : Accepts (readExpr s) e rest)
    (free : name ≠ "return") :
    Accepts (readStatement (.name name :: .mark .assign :: s)) (.assign name e) rest := by
  obtain ⟨fewer, h⟩ := h
  exact ⟨by simp; omega, by simp [readStatement, free, following?_cons, h]⟩

theorem readStatement_value (h : Accepts (readExpr s) e rest)
    (plain : ∀ name more, s = .name name :: more →
      name ≠ "return" ∧ following? .assign more = none) :
    Accepts (readStatement s) (.value e) rest := by
  obtain ⟨fewer, h⟩ := h
  refine ⟨fewer, ?_⟩
  match s with
  | [] | .int _ :: _ | .float _ :: _ | .str _ :: _ | .mark _ :: _ | .child _ :: _ =>
      simp [readStatement, h]
  | .name name :: more =>
      obtain ⟨free, unassigned⟩ := plain name more rfl
      simp [readStatement, free, unassigned, h]

theorem Statement.Printable.accepts {st : Statement} (h : st.Printable)
    (ends : EndsStatement rest) : Accepts (readStatement (st.tokens ++ rest)) st rest := by
  have question := ends.following? (m := .question) (by decide)
  cases st with
  | assign name e =>
      have value := h.2.readsBack.whole rest ends.stops question
      exact readStatement_assign value (h.1.ne "return" (by decide))
  | result e => exact readStatement_result (h.readsBack.whole rest ends.stops question)
  | value e =>
      refine readStatement_value (h.readsBack.whole rest ends.stops question) fun name more same => ?_
      have inside := h.inExpr
      rw [tokens] at same
      cases ht : e.tokens with
      | nil => exact absurd ht e.tokens_ne_nil
      | cons t ts =>
          rw [ht, List.cons_append] at same
          obtain ⟨rfl, rfl⟩ := List.cons.inj same
          rw [ht, List.forall_mem_cons] at inside
          refine ⟨inside.1.2, ?_⟩
          cases ts with
          | nil => exact ends.following? (by decide)
          | cons u us =>
              have free : u.InExpr := inside.2 u List.mem_cons_self
              cases u with
              | mark m => exact following?_cons_ne free.1 _
              | int _ | float _ | str _ | name _ | child _ => rfl

theorem readStatement_begins {st : Statement} (h : Accepts (readStatement s) st rest) :
    ∃ t more, s = t :: more ∧ following? .separator s = none := by
  match s with
  | [] =>
      obtain ⟨_, h⟩ := h
      simp [readStatement, readExpr, readBinary, readUnary, readPrimary, following?] at h
  | .int _ :: _ | .float _ :: _ | .str _ :: _ | .name _ :: _ | .child _ :: _ =>
      exact ⟨_, _, rfl, rfl⟩
  | .mark k :: more =>
      refine ⟨.mark k, more, rfl, following?_cons_ne (fun same => ?_) more⟩
      subst same
      obtain ⟨_, h⟩ := h
      simp [readStatement, readExpr, readBinary, readUnary, readPrimary, following?] at h

theorem readProgram_last {st : Statement} (h : Accepts (readStatement s) st []) :
    readProgram s = .ok [st] := by
  obtain ⟨t, more, rfl, begins⟩ := readStatement_begins h
  obtain ⟨fewer, h⟩ := h
  rw [readProgram]
  simp [begins, h]

theorem readProgram_next {st : Statement} {p : Program} {more : List Token}
    (h : Accepts (readStatement s) st (.mark .separator :: more))
    (later : readProgram more = .ok p) : readProgram s = .ok (st :: p) := by
  obtain ⟨t, ts, rfl, begins⟩ := readStatement_begins h
  obtain ⟨fewer, h⟩ := h
  rw [readProgram]
  simp [begins, h, following?_cons, later]

end Statements
end PredictiveParsing.Action
