import PredictiveParsing.Action.Evaluation
import PredictiveParsing.Proofs.Action.Foresight
import PredictiveParsing.Proofs.Action.Occurrence

/-!
Inlining a variable. An expression has the same result for a variable with a value as with an
expression of this value in its place. Tokens are read accordingly: with the tokens of that
expression in parentheses for each use of the variable, they are read as the expression with the
variable inlined. A reading that ends in front of a mark does so in both.
-/
namespace PredictiveParsing.Action

namespace Expr

mutual

/-- The expression with another one in the place of a variable. -/
def inline (name : String) (source : Expr) : Expr → Expr
  | .literal v => .literal v
  | .child index => .child index
  | .var x => if x = name then source else .var x
  | .neg e => .neg (inline name source e)
  | .not e => .not (inline name source e)
  | .arith op a b => .arith op (inline name source a) (inline name source b)
  | .compare op a b => .compare op (inline name source a) (inline name source b)
  | .and a b => .and (inline name source a) (inline name source b)
  | .or a b => .or (inline name source a) (inline name source b)
  | .cond test a b =>
    .cond (inline name source test) (inline name source a) (inline name source b)
  | .call function arguments => .call function (inlineList name source arguments)

/-- The arguments of a call with an expression in the place of a variable. -/
def inlineList (name : String) (source : Expr) : List Expr → List Expr
  | [] => []
  | e :: es => inline name source e :: inlineList name source es

end

variable {name : String} {source : Expr} {children : List Value} {locals : Locals} {v : Value}

/-- A variable with a value is as good as an expression of this value in its place. -/
theorem eval_inline (value : source.eval children locals = .ok v) (e : Expr) :
    (inline name source e).eval children locals = e.eval children ((name, v) :: locals) := by
  induction e with
  | literal _ | child _ => simp only [inline, eval]
  | var x =>
      by_cases same : x = name
      · simp [inline, eval, same, value]
      · have other : (x == name) = false := by simpa using same
        simp [inline, eval, same, List.lookup_cons, other]
  | neg e ih | not e ih => simp only [inline, eval, ih]
  | arith _ a b iha ihb | compare _ a b iha ihb | and a b iha ihb | or a b iha ihb =>
      simp only [inline, eval, iha, ihb]
  | cond test a b iht iha ihb => simp only [inline, eval, iht, iha, ihb]
  | call function arguments ih =>
      have each : evalList children locals (inlineList name source arguments) =
          evalList children ((name, v) :: locals) arguments := by
        induction arguments with
        | nil => rfl
        | cons e es more =>
            obtain ⟨first, later⟩ := List.forall_mem_cons.mp ih
            simp only [inlineList, evalList, first, more later]
      simp only [inline, eval, each]

theorem inline_join {m : Mark} {level : Nat} {join : Expr → Expr → Expr}
    (h : m.joins? level = some join) (a b : Expr) :
    inline name source (join a b) = join (inline name source a) (inline name source b) := by
  rw [Mark.joins?.eq_def] at h
  split at h <;> cases h <;> rw [inline]

end Expr

/-- Whether a name in front of the tokens is a use of the variable: the name is no truth value,
and it calls no function. -/
def IsUse (name x : String) (rest : List Token) : Prop :=
  x = name ∧ (x ≠ "true" ∧ x ≠ "false") ∧ (following? .openParen rest).isNone = true

instance (name x : String) (rest : List Token) : Decidable (IsUse name x rest) :=
  inferInstanceAs (Decidable (_ ∧ _ ∧ _))

/-- The tokens with others, in parentheses, in the place of each use of the variable. -/
def inlineTokens (name : String) (es : List Token) : List Token → List Token
  | [] => []
  | .name x :: rest =>
    if IsUse name x rest then
      .mark .openParen :: es ++ .mark .closeParen :: inlineTokens name es rest
    else .name x :: inlineTokens name es rest
  | t :: rest => t :: inlineTokens name es rest

/-- Nothing is left, or a mark that makes no call of a name in front of it. -/
def Ends : List Token → Prop
  | [] => True
  | .mark m :: _ => m ≠ .openParen
  | _ => False

section Tokens

variable {name : String} {es s : List Token} {m : Mark}

theorem inlineTokens_mark (m : Mark) (rest : List Token) :
    inlineTokens name es (.mark m :: rest) = .mark m :: inlineTokens name es rest :=
  rfl

theorem inlineTokens_use {x : String} {rest : List Token} (use : IsUse name x rest) :
    inlineTokens name es (.name x :: rest) =
      .mark .openParen :: es ++ .mark .closeParen :: inlineTokens name es rest := by
  rw [inlineTokens, if_pos use]

theorem inlineTokens_other {x : String} {rest : List Token} (other : ¬IsUse name x rest) :
    inlineTokens name es (.name x :: rest) = .name x :: inlineTokens name es rest := by
  rw [inlineTokens, if_neg other]

/-- The name of a truth value is not inlined. -/
theorem inlineTokens_truth (h : name = "true" ∨ name = "false") (s : List Token) :
    inlineTokens name es s = s := by
  induction s with
  | nil => rfl
  | cons t rest ih =>
      cases t with
      | name x =>
          have other : ¬IsUse name x rest := by
            rintro ⟨rfl, ⟨yes, no⟩, -⟩
            exact h.elim yes no
          rw [inlineTokens_other other, ih]
      | int _ | float _ | str _ | child _ | mark _ =>
          rw [inlineTokens, ih]
          simp

/-- What stands in the place of a name is no mark but a parenthesis. -/
theorem head?_inlineTokens (name : String) (es s : List Token) :
    (inlineTokens name es s).head? = s.head? ∨
      (∃ x, s.head? = some (.name x)) ∧
        (inlineTokens name es s).head? = some (.mark .openParen) := by
  match s with
  | [] | .int _ :: _ | .float _ :: _ | .str _ :: _ | .child _ :: _ | .mark _ :: _ => exact .inl rfl
  | .name x :: rest =>
      by_cases use : IsUse name x rest
      · rw [inlineTokens_use use]
        exact .inr ⟨⟨x, rfl⟩, rfl⟩
      · rw [inlineTokens_other use]
        exact .inl rfl

theorem following?_inlineTokens (absent : following? m s = none) (other : m ≠ .openParen) :
    following? m (inlineTokens name es s) = none := by
  rcases head?_inlineTokens name es s with same | ⟨-, opens⟩
  · exact following?_eq_none_of_head? absent same
  · obtain ⟨rest, tokens⟩ := List.head?_eq_some_iff.mp opens
    rw [tokens]
    exact following?_cons_ne other.symm rest

theorem joining?_inlineTokens {level : Nat} (absent : joining? level s = none) :
    joining? level (inlineTokens name es s) = none := by
  rcases head?_inlineTokens name es s with same | ⟨-, opens⟩
  · exact joining?_eq_none_of_head? absent same
  · obtain ⟨rest, tokens⟩ := List.head?_eq_some_iff.mp opens
    rw [tokens]
    cases level with
    | zero => rfl
    | succ level => exact joining?_eq_none (by simp [Mark.level]) rest

theorem Ends.following? (h : Ends s) : following? .openParen s = none := by
  match s with
  | [] => rfl
  | .mark m :: rest => exact following?_cons_ne h rest

theorem Ends.inlineTokens (h : Ends s) : Ends (inlineTokens name es s) := by
  match s with
  | [] | .mark _ :: _ => exact h

end Tokens

namespace Reading

variable {α β : Type}

/-- The reading begins where an expression ends, if it leaves what an expression ends with. -/
def KeepsEnds (p : Reading α) : Prop :=
  ∀ s a rest, p s = (.ok a, rest) → Ends rest → Ends s

section Keeping

variable {p q : Reading α} {m : Mark}

theorem keepsEnds_give (a : α) : KeepsEnds (give a) := by
  intro s b rest read ends
  cases read
  exact ends

theorem KeepsEnds.onMark (other : KeepsEnds q) (ne : m ≠ .openParen) :
    KeepsEnds (onMark m p q) := by
  intro s a rest read ends
  rcases following?_cases m s with ⟨behind, rfl⟩ | absent
  · exact ne
  · rw [Reading.onMark, absent] at read
    exact other s a rest read ends

theorem keepsEnds_require {text : String} (ne : m ≠ .openParen) :
    KeepsEnds (require m text p) := by
  refine KeepsEnds.onMark (fun s a rest read _ => ?_) ne
  cases read

theorem ne_openParen_of_joins? {level : Nat} {join : Expr → Expr → Expr}
    (h : m.joins? level = some join) : m ≠ .openParen := by
  rintro rfl
  rw [Mark.joins?.eq_def] at h
  split at h <;> cases h <;> contradiction

theorem keepsEnds_tail (level : Nat) (left : Expr) : KeepsEnds (tail level left) := by
  intro s e rest read ends
  rw [tail_eq, onOperator] at read
  rcases joining?_cases (level + 1) s with ⟨m, behind, join, joins, rfl⟩ | absent
  · exact ne_openParen_of_joins? joins
  · rw [absent] at read
    cases read
    exact ends

theorem keepsEnds_branches (test : Expr) : KeepsEnds (branches test) :=
  (keepsEnds_give test).onMark (by decide)

theorem keepsEnds_further (e : Expr) : KeepsEnds (further e) :=
  (keepsEnds_require (by decide)).onMark (by decide)

end Keeping

section Inlining

variable (name : String) (es : List Token)

/-- Where the one reading takes its tokens and ends in front of a mark, the other one takes them
with the variable inlined. -/
def Inlines (p p' : Reading α) (g : α → α) (s : List Token) : Prop :=
  ∀ a rest, p s = (.ok a, rest) → Ends rest →
    p' (inlineTokens name es s) = (.ok (g a), inlineTokens name es rest)

variable {name es} {s : List Token} {p p' q q' : Reading α} {g : α → α} {m : Mark}

theorem inlines_give {a b : α} (same : b = g a) : Inlines name es (give a) (give b) g s := by
  intro c rest read _
  cases read
  rw [same]
  rfl

theorem inlines_refuse (fault : CodeFault) : Inlines name es (refuse fault) p' g s := by
  intro a rest read
  cases read

theorem Inlines.andThen {r r' : α → Reading β} {k : β → β} (h : Inlines name es p p' g s)
    (next : ∀ a rest, p s = (.ok a, rest) → Inlines name es (r a) (r' (g a)) k rest)
    (keeps : ∀ a, KeepsEnds (r a)) : Inlines name es (p.andThen r) (p'.andThen r') k s := by
  intro b rest read ends
  rw [Reading.andThen] at read
  rcases first : p s with ⟨fault | a, behind⟩
  · rw [first] at read
    cases read
  · rw [first] at read
    have here := h a behind first (keeps a behind b rest read ends)
    rw [Reading.andThen, here]
    exact next a behind first b rest read ends

theorem Inlines.onMark (taken : ∀ rest, s = .mark m :: rest → Inlines name es p p' g rest)
    (other : following? m s = none → Inlines name es q q' g s) (ne : m ≠ .openParen) :
    Inlines name es (onMark m p q) (onMark m p' q') g s := by
  intro a rest read ends
  rcases following?_cases m s with ⟨behind, rfl⟩ | absent
  · rw [Reading.onMark, following?_cons] at read
    rw [inlineTokens_mark, Reading.onMark, following?_cons]
    exact taken behind rfl a rest read ends
  · rw [Reading.onMark, absent] at read
    rw [Reading.onMark, following?_inlineTokens absent ne]
    exact other absent a rest read ends

theorem Inlines.require {text : String}
    (taken : ∀ rest, s = .mark m :: rest → Inlines name es p p' g rest) (ne : m ≠ .openParen) :
    Inlines name es (require m text p) (require m text p') g s :=
  Inlines.onMark taken (fun _ => inlines_refuse (.expectedMark text)) ne

theorem Inlines.map {r r' : α → β} {k : β → β} (h : Inlines name es p p' g s)
    (same : ∀ a, r' (g a) = k (r a)) :
    Inlines name es (p.andThen fun a => give (r a)) (p'.andThen fun a => give (r' a)) k s :=
  h.andThen (fun a _ _ => inlines_give (same a)) fun a => keepsEnds_give (r a)

end Inlining

section Readers

variable (name : String) (es : List Token) (source : Expr)

/-- Each reader reads the tokens with the variable inlined as the expression with the variable
inlined. -/
structure ReadersInline (s : List Token) : Prop where
  unary : Inlines name es unary unary (Expr.inline name source) s
  binary : ∀ level, Inlines name es (binary level) (binary level) (Expr.inline name source) s
  tail : ∀ level left,
    Inlines name es (tail level left) (tail level (Expr.inline name source left))
      (Expr.inline name source) s
  expr : Inlines name es expr expr (Expr.inline name source) s
  arguments : Inlines name es arguments arguments (Expr.inlineList name source) s

variable {name es source} {s : List Token}

theorem primary_openParen (rest : List Token) :
    primary (.mark .openParen :: rest) =
      expr.andThen (fun e => require .closeParen ")" (give e)) rest := by
  rw [primary_eq]
  rfl

/-- In parentheses, the tokens of an expression are read as the expression. -/
theorem primary_parentheses (h : expr es = (.ok source, [])) (more : List Token) :
    primary (.mark .openParen :: es ++ .mark .closeParen :: more) = (.ok source, more) := by
  have closes : Closes (.mark .closeParen :: more) := by simp [Closes]
  have inside := expr_append h closes
  rw [List.cons_append, primary_openParen]
  simp only [andThen, inside, require, onMark, following?_cons]
  rfl

/-- Behind a name and an opening parenthesis: the arguments of a call. -/
def called (x : String) : Reading Expr :=
  onMark .closeParen (give (.call x [])) (arguments.andThen fun es => give (.call x es))

variable (h : expr es = (.ok source, []))
  (shorter : ∀ r : List Token, r.length < s.length → ReadersInline name es source r)

include shorter

theorem inlines_called (x : String) (rest : List Token) (fewer : rest.length < s.length) :
    Inlines name es (called x) (called x) (Expr.inline name source) rest := by
  refine Inlines.onMark (fun _ _ => inlines_give ?_) (fun _ => ?_) (by decide)
  · rw [Expr.inline, Expr.inlineList]
  · refine (shorter rest fewer).arguments.map fun es => ?_
    rw [Expr.inline]

include h

/-- A use of the variable is read as the expression in its place, any other name as before. -/
theorem inlines_name (x : String) (rest : List Token) (fewer : rest.length < s.length) :
    Inlines name es primary primary (Expr.inline name source) (.name x :: rest) := by
  intro e behind read ends
  rw [primary_name] at read
  by_cases truth : x = "true" ∨ x = "false"
  · have other : ¬IsUse name x rest := by
      rintro ⟨-, ⟨yes, no⟩, -⟩
      exact truth.elim yes no
    rw [inlineTokens_other other, primary_name]
    rcases truth with rfl | rfl <;> cases read <;> rfl
  · obtain ⟨yes, no⟩ := not_or.mp truth
    have plain (t : List Token) :
        named x t = Reading.onMark .openParen (called x) (give (.var x)) t := by
      rw [named, if_neg yes, if_neg no]
      rfl
    rw [plain] at read
    rcases following?_cases .openParen rest with ⟨inside, rfl⟩ | absent
    · have call : ¬IsUse name x (.mark .openParen :: inside) := by
        rintro ⟨-, -, none⟩
        rw [following?_cons] at none
        cases none
      rw [onMark, following?_cons] at read
      rw [inlineTokens_other call, primary_name, plain, inlineTokens_mark, onMark,
        following?_cons]
      exact inlines_called shorter x inside (by simp at fewer; omega) e behind read ends
    · rw [onMark, absent] at read
      cases read
      by_cases same : x = name
      · have use : IsUse name x rest := ⟨same, ⟨yes, no⟩, by rw [absent]; rfl⟩
        rw [inlineTokens_use use, primary_parentheses h, Expr.inline, if_pos same]
      · rw [inlineTokens_other fun use => same use.1, primary_name, plain, onMark,
          ends.inlineTokens.following?, Expr.inline, if_neg same]
        rfl

theorem inlines_primary : Inlines name es primary primary (Expr.inline name source) s := by
  intro e rest read ends
  match s with
  | [] =>
      rw [primary_eq] at read
      cases read
  | .int _ :: behind | .float _ :: behind | .str _ :: behind | .child _ :: behind =>
      rw [primary_eq] at read
      cases read
      rw [inlineTokens, primary_eq]
      · rfl
      all_goals simp
  | .name x :: behind =>
      exact inlines_name h shorter x behind (Nat.lt_succ_self _) e rest read ends
  | .mark m :: behind =>
      by_cases opens : m = .openParen
      · subst opens
        rw [primary_openParen] at read
        rw [inlineTokens_mark, primary_openParen]
        refine Inlines.andThen (shorter behind (Nat.lt_succ_self _)).expr (fun e rest _ => ?_)
          (fun e => keepsEnds_require (by decide)) e rest read ends
        exact Inlines.require (fun _ _ => inlines_give rfl) (by decide)
      · rw [primary_eq, take, begun, if_neg opens] at read
        cases read

theorem inlines_unary : Inlines name es unary unary (Expr.inline name source) s := by
  have signed (f : Expr → Expr) (same : ∀ e, f (.inline name source e) = .inline name source (f e))
      (m : Mark) (rest : List Token) (begins : s = .mark m :: rest) :
      Inlines name es (unary.andThen fun e => give (f e)) (unary.andThen fun e => give (f e))
        (Expr.inline name source) rest :=
    (shorter rest (length_lt_of_cons begins)).unary.map same
  rw [unary_eq]
  refine Inlines.onMark (signed _ (fun _ => by rw [Expr.inline]) _) (fun _ => ?_) (by decide)
  exact Inlines.onMark (signed _ (fun _ => by rw [Expr.inline]) _)
    (fun _ => inlines_primary h shorter) (by decide)

theorem inlines_binary (level : Nat) :
    Inlines name es (binary level) (binary level) (Expr.inline name source) s := by
  induction level with
  | zero =>
      rw [binary_zero]
      exact inlines_unary h shorter
  | succ level ih =>
      rw [binary_succ]
      refine ih.andThen (fun left rest read => ?_) fun left => keepsEnds_tail level left
      exact (shorter rest (length_of_binary read)).tail level left

theorem inlines_expr : Inlines name es expr expr (Expr.inline name source) s := by
  rw [expr_eq]
  refine (inlines_binary h shorter 5).andThen (fun test rest read => ?_) keepsEnds_branches
  refine Inlines.onMark (fun first begins => ?_) (fun _ => inlines_give rfl) (by decide)
  have fewer := Nat.lt_trans (length_lt_of_cons begins) (length_of_binary read)
  refine (shorter first fewer).expr.andThen (fun a rest read => ?_)
    fun a => keepsEnds_require (by decide)
  refine Inlines.require (fun second begins => ?_) (by decide)
  have fewer' := Nat.lt_trans (length_lt_of_cons begins) (length_of_expr read)
  refine (shorter second (Nat.lt_trans fewer' fewer)).expr.map fun b => ?_
  rw [Expr.inline]

theorem inlines_arguments :
    Inlines name es arguments arguments (Expr.inlineList name source) s := by
  rw [arguments_eq]
  refine (inlines_expr h shorter).andThen (fun e rest read => ?_) keepsEnds_further
  refine Inlines.onMark (fun _ _ => inlines_give ?_) (fun _ => ?_) (by decide)
  · rw [Expr.inlineList, Expr.inlineList]
  · refine Inlines.require (fun behind begins => ?_) (by decide)
    have fewer := Nat.lt_trans (length_lt_of_cons begins) (length_of_expr read)
    refine (shorter behind fewer).arguments.map fun es => ?_
    rw [Expr.inlineList]

omit h

theorem inlines_tail (level : Nat) (left : Expr) :
    Inlines name es (tail level left) (tail level (.inline name source left))
      (Expr.inline name source) s := by
  intro e rest read ends
  rw [tail_eq, onOperator] at read ⊢
  rcases joining?_cases (level + 1) s with ⟨m, behind, join, joins, rfl⟩ | absent
  · rw [joining?_cons joins] at read
    rw [inlineTokens_mark, joining?_cons joins]
    have fewer : behind.length < (Token.mark m :: behind).length := Nat.lt_succ_self _
    have operand : Inlines name es (joined level left join)
        (joined level (.inline name source left) join) (Expr.inline name source) behind := by
      refine ((shorter behind fewer).binary level).andThen (fun right rest read => ?_)
        fun right => ?_
      · rw [← Expr.inline_join joins]
        split
        · exact (shorter rest (Nat.lt_trans (length_of_binary read) fewer)).tail level _
        · exact inlines_give rfl
      · split
        · exact keepsEnds_tail level _
        · exact keepsEnds_give _
    exact operand e rest read ends
  · rw [absent] at read
    rw [joining?_inlineTokens absent]
    cases read
    rfl

omit shorter

include h

theorem readersInline (s : List Token) : ReadersInline name es source s := by
  -- as for what the readers foresee: only the left operand is read from as many tokens
  induction length : s.length using Nat.strongRecOn generalizing s with
  | _ n ih =>
      have shorter : ∀ r : List Token, r.length < s.length → ReadersInline name es source r :=
        fun r fewer => ih r.length (length ▸ fewer) r rfl
      exact ⟨inlines_unary h shorter, inlines_binary h shorter, inlines_tail shorter,
        inlines_expr h shorter, inlines_arguments h shorter⟩

/-- The tokens of an expression with a variable inlined are read as the expression with the
variable inlined. -/
theorem expr_inlineTokens {fs : List Token} {e : Expr} (read : expr fs = (.ok e, [])) :
    expr (inlineTokens name es fs) = (.ok (.inline name source e), []) :=
  (readersInline h fs).expr e [] read trivial

end Readers

end Reading
end PredictiveParsing.Action
