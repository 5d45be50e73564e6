import PredictiveParsing.Proofs.Action.Inlining
import PredictiveParsing.Proofs.Action.Locality
import PredictiveParsing.Proofs.Action.RoundTrip

/-!
Assignment is inlining. A program that assigns the value of an expression to a variable and goes
on with another expression has the result of this expression with the first one, in parentheses,
in the place of each use of the variable. The names of truth values can be assigned to as well,
and there this fails: the assignment is accepted and has no effect.
-/
namespace PredictiveParsing.Action

section Text

/-- Whether the arguments of a call follow a name. -/
def opensCall (rest : List Char) : Bool :=
  (rest.dropWhile isSpace).head? == some '('

/-- Whether a token is the name, and no call follows. -/
def standsFor (name : String) (token : Option Token) (rest : List Char) : Bool :=
  match token with
  | some (.name x) => x == name && !opensCall rest
  | _ => false

/-- The text with another one, in parentheses, in the place of each occurrence of the name that
is not the name of a call. -/
def inlineText (name : String) (source : List Char) : List Char → List Char
  | [] => []
  | c :: cs =>
    match _h : scan c cs with
    | .error _ => c :: cs
    | .ok (token, rest) =>
      if standsFor name token rest then '(' :: source ++ ')' :: inlineText name source rest
      else c :: cs.take (cs.length - rest.length) ++ inlineText name source rest
termination_by cs => cs.length
decreasing_by
  all_goals
    have := (scan_suffix _h).length_le
    simp only [List.length_cons]
    omega

variable {name : String} {source : List Char} {c : Char} {cs rest taken : List Char}
  {token : Option Token} {es ts : List Token}

theorem inlineText_standsFor (scanned : scan c cs = .ok (token, rest))
    (stands : standsFor name token rest = true) :
    inlineText name source (c :: cs) = '(' :: source ++ ')' :: inlineText name source rest := by
  rw [inlineText]
  split
  · next failed => cases failed.symm.trans scanned
  · next found =>
      cases found.symm.trans scanned
      rw [if_pos stands]

theorem inlineText_other (scanned : scan c (taken ++ rest) = .ok (token, rest))
    (other : standsFor name token rest = false) :
    inlineText name source (c :: (taken ++ rest)) =
      c :: (taken ++ inlineText name source rest) := by
  rw [inlineText]
  split
  · next failed => cases failed.symm.trans scanned
  · next found =>
      cases found.symm.trans scanned
      rw [other]
      simp

theorem head?_inlineText (cs : List Char) :
    ∀ d ∈ (inlineText name source cs).head?, cs.head? = some d ∨ Delimits d := by
  intro d head
  cases cs with
  | nil => simp [inlineText] at head
  | cons c cs =>
      rw [inlineText] at head
      split at head
      · exact .inl head
      · split at head
        · cases head
          exact .inr (.inl rfl)
        · exact .inl head

/-- A call is seen in the text as it is in its tokens. -/
theorem Scans.opensCall (h : Scans cs ts) :
    opensCall cs = (following? .openParen ts).isSome := by
  induction h with
  | nil => rfl
  | space blank _ ih =>
      rw [← ih, Action.opensCall, List.dropWhile_cons_of_pos blank]
      rfl
  | @token c cs rest t ts scanned more _ =>
      have first : isSpace c = false := (not_isSpace_of_scan scanned).1
      rw [Action.opensCall, List.dropWhile_cons_of_neg (by simp [first]), List.head?_cons]
      rcases following?_cases .openParen (t :: ts) with ⟨behind, same⟩ | absent
      · cases same
        rw [eq_of_scan_openParen scanned, following?_cons]
        rfl
      · have other : c ≠ '(' := by
          rintro rfl
          cases (scan_openParen cs).symm.trans scanned
          rw [following?_cons] at absent
          cases absent
        rw [absent]
        simpa using other

theorem Scans.standsFor_iff {x : String} (h : Scans rest ts)
    (free : name ≠ "true" ∧ name ≠ "false") :
    standsFor name (some (.name x)) rest = true ↔ IsUse name x ts := by
  rw [standsFor, h.opensCall, IsUse]
  cases following? .openParen ts <;> simp
  rintro rfl
  exact free

/-- The tokens of the text with an expression in the place of a variable. -/
theorem Scans.inlineText (h : Scans cs ts) (expression : Scans source es)
    (free : name ≠ "true" ∧ name ≠ "false") :
    Scans (inlineText name source cs) (inlineTokens name es ts) := by
  induction h with
  | nil =>
      rw [Action.inlineText]
      exact .nil
  | @space c cs ts blank more ih =>
      have kept := @inlineText_other name source c cs [] none (scan_space blank cs) rfl
      rw [List.nil_append, List.nil_append] at kept
      rw [kept]
      exact .space blank ih
  | @token c cs rest t ts scanned more ih =>
      by_cases stands : standsFor name (some t) rest = true
      · cases t with
        | name x =>
            have use := (more.standsFor_iff free).mp stands
            have closing := Scans.token (scan_closeParen _) ih
            rw [inlineText_standsFor scanned stands, inlineTokens_use use]
            refine .token (scan_openParen _) (expression.append closing fun d head => ?_)
            cases head
            exact .inr (.inl rfl)
        | int _ | float _ | str _ | child _ | mark _ => cases stands
      · have other : standsFor name (some t) rest = false := by simpa using stands
        have kept : inlineTokens name es (t :: ts) = t :: inlineTokens name es ts := by
          cases t with
          | name x => exact inlineTokens_other fun use => stands ((more.standsFor_iff free).mpr use)
          | int _ | float _ | str _ | child _ | mark _ => rfl
        have follows : Follows rest (Action.inlineText name source rest) := by
          intro d head
          rcases head?_inlineText rest d head with same | delimits
          · exact .inl ⟨same, more.head?_ne_dot d same⟩
          · exact .inr delimits
        obtain ⟨taken, rfl⟩ := scan_suffix scanned
        rw [inlineText_other scanned other, kept]
        exact .token (scan_congr follows (not_isSpace_of_scan scanned).2 scanned) ih

end Text

section Programs

variable {name x : String} {es fs s : List Token} {e f : Expr} {p : Program}

theorem readPrimary_name (x : String) :
    ∃ e, ∀ s, following? .openParen s = none → Accepts (readPrimary (.name x :: s)) e s := by
  by_cases truth : x = "true" ∨ x = "false"
  · rcases truth with rfl | rfl
    · exact ⟨_, fun s _ => readPrimary_literal (.bool true) s⟩
    · exact ⟨_, fun s _ => readPrimary_literal (.bool false) s⟩
  · obtain ⟨yes, no⟩ := not_or.mp truth
    refine ⟨.var x, fun s closed => ⟨by simp, ?_⟩⟩
    rw [readPrimary]
    simp [yes, no, closed]

/-- No assignment mark stands behind the name that an expression begins with. -/
theorem unassigned_of_expr (h : Reading.expr (.name x :: s) = (.ok e, [])) :
    following? .assign s = none := by
  rcases following?_cases .assign s with ⟨behind, rfl⟩ | absent
  · obtain ⟨e', named⟩ := readPrimary_name x
    have reads : Reads 0 [.name x] e' := reads_of_primary fun rest stops => named rest stops.1
    have whole := (reads.mono (Nat.zero_le 5)).whole (.mark .assign :: behind)
      (stops_of_plain rfl (by decide) behind) (following?_cons_ne (by decide) behind)
    have read := Reading.ofResult_eq_ok_iff.mpr whole
    cases h.symm.trans read
  · exact absent

theorem readProgram_expression (h : Reading.expr es = (.ok e, []))
    (free : es.head? ≠ some (.name "return")) : readProgram es = .ok [.value e] := by
  refine readProgram_last (readStatement_value (Reading.ofResult_eq_ok_iff.mp h) ?_)
  rintro x more rfl
  constructor
  · rintro rfl
    exact free rfl
  · exact unassigned_of_expr h

theorem readProgram_assign (h : Reading.expr es = (.ok e, [])) (free : name ≠ "return")
    (later : readProgram fs = .ok p) :
    readProgram (.name name :: .mark .assign :: (es ++ .mark .separator :: fs)) =
      .ok (.assign name e :: p) := by
  have closes : Closes (.mark .separator :: fs) := by simp [Closes]
  have read := Reading.ofResult_eq_ok_iff.mp (Reading.expr_append h closes)
  exact readProgram_next (readStatement_assign read free) later

/-- With the variable inlined an expression is still no result statement. -/
theorem head?_inlineTokens_ne (free : .name "return" ∉ fs) :
    (inlineTokens name es fs).head? ≠ some (.name "return") := by
  intro head
  rcases head?_inlineTokens name es fs with kept | ⟨-, opens⟩
  · rw [kept] at head
    exact free (List.mem_of_head? head)
  · rw [opens] at head
    cases head

theorem readProgram_inlined (h : Reading.expr es = (.ok e, [])) (k : Reading.expr fs = (.ok f, []))
    (free : .name "return" ∉ fs) :
    readProgram (inlineTokens name es fs) = .ok [.value (.inline name e f)] :=
  readProgram_expression (Reading.expr_inlineTokens h k) (head?_inlineTokens_ne free)

/-- In the expressions that are read no variable has the name of a truth value. -/
theorem inline_truth (h : Reading.expr es = (.ok e, [])) (k : Reading.expr fs = (.ok f, []))
    (truth : name = "true" ∨ name = "false") : Expr.inline name e f = f := by
  have inlined : Reading.expr (inlineTokens name es fs) = (.ok (.inline name e f), []) :=
    Reading.expr_inlineTokens h k
  rw [inlineTokens_truth truth, k] at inlined
  exact (Except.ok.inj (Prod.mk.inj inlined).1).symm

variable {children : List Value} {v : Value}

theorem run_value (e : Expr) (children : List Value) :
    Program.run [.value e] children = e.eval children [] := by
  change (e.eval children [] >>= fun v => .ok v) = _
  cases e.eval children [] <;> rfl

theorem run_assign (value : e.eval children [] = .ok v) (f : Expr) :
    Program.run [.assign name e, .value f] children = (Expr.inline name e f).eval children [] := by
  rw [Expr.eval_inline value]
  change (e.eval children [] >>= fun v => f.eval children [(name, v)] >>= fun w => .ok w) = _
  rw [value]
  change (f.eval children [(name, v)] >>= fun w => .ok w) = _
  cases f.eval children [(name, v)] <;> rfl

end Programs

/-- The text is that of the expression: the reader of expressions takes all of its tokens, and it
has neither comments nor the name `return`. -/
structure IsExpression (text : String) (e : Expr) : Prop where
  reads : ∃ ls, tokenize text.toList = .ok ls ∧ Accepts (readExpr (ls.map (·.token))) e [] ∧
    .name "return" ∉ ls.map (·.token)
  uncommented : ¬HasComment text.toList

/-- The result of the program that the text is, for the values of the children. -/
def outcome (text : String) (children : List Value) : Except ActionError Value :=
  expressions.prepare text >>= fun p => expressions.evaluate p children

/-- The program that assigns the one expression and goes on with the other. -/
def assigned (name source text : String) : String :=
  name ++ " = " ++ source ++ "; " ++ text

/-- The text with the one expression in the place of the variable. -/
def inlined (name source text : String) : String :=
  String.ofList (inlineText name source.toList text.toList)

section Outcomes

variable {name source text : String} {e f : Expr} {ts : List Token}

theorem IsExpression.scans (h : IsExpression text e) :
    ∃ ts, Scans text.toList ts ∧ Reading.expr ts = (.ok e, []) ∧ .name "return" ∉ ts := by
  obtain ⟨ls, lexed, read, free⟩ := h.reads
  exact ⟨_, scans_of_lexemes lexed h.uncommented, Reading.ofResult_eq_ok_iff.mpr read, free⟩

theorem Scans.isExpression (h : Scans text.toList ts) (read : Accepts (readExpr ts) e [])
    (free : .name "return" ∉ ts) : IsExpression text e := by
  obtain ⟨ls, lexed, rfl⟩ := h.lexes (Text.byteLength text.toList)
  exact ⟨⟨ls, lexed, read, free⟩, h.not_hasComment⟩

theorem Scans.isExpression_of_printable (h : Scans text.toList e.tokens) (printable : e.Printable) :
    IsExpression text e := by
  have read := printable.readsBack.whole [] (stops_nil 5) rfl
  rw [List.append_nil] at read
  exact h.isExpression read fun inside => (printable.inExpr _ inside).2 rfl

theorem outcome_of_prepare {p : Program} (h : expressions.prepare text = .ok p)
    (children : List Value) : outcome text children = p.run children := by
  rw [outcome, h]
  rfl

theorem IsExpression.prepare (h : IsExpression text e) :
    expressions.prepare text = .ok [.value e] := by
  obtain ⟨ts, scans, read, free⟩ := h.scans
  have program := readProgram_expression read fun head => free (List.mem_of_head? head)
  exact Program.ofText_of_lexes scans.lexes program

theorem IsExpression.outcome (h : IsExpression text e) (children : List Value) :
    outcome text children = e.eval children [] := by
  rw [outcome_of_prepare h.prepare, run_value]

/-- A name, the mark of an assignment and an expression with a semicolon behind it. -/
theorem lexes_assigned {es fs : List Token} (identifier : isIdentifier name.toList = true)
    (first : Scans source.toList es) (second : Scans text.toList fs) :
    Lexes (assigned name source text).toList
      (.name name :: .mark .assign :: (es ++ .mark .separator :: fs)) := by
  have behind : Scans (';' :: ' ' :: text.toList) (.mark .separator :: fs) :=
    .token (scan_semicolon _) (.space rfl second)
  have expression := (first.append behind fun d head => by
    cases head
    exact .inr (.inr rfl)).lexes
  have mark : ['='] ∈ (Token.mark .assign).spellings := by decide
  have breaks : ∀ cs, Breaks (' ' :: cs) := fun _ => .inl rfl
  have value := expression.space.spelling mark trivial (breaks _)
  have written : name.toList ∈ (Token.name name).spellings := List.mem_singleton_self _
  have whole := value.space.spelling written identifier (breaks _)
  simpa [assigned] using whole

theorem prepare_assigned (identifier : isIdentifier name.toList = true) (free : name ≠ "return")
    (first : IsExpression source e) (second : IsExpression text f) :
    expressions.prepare (assigned name source text) = .ok [.assign name e, .value f] := by
  obtain ⟨es, scans, read, -⟩ := first.scans
  obtain ⟨fs, scans', read', free'⟩ := second.scans
  have later := readProgram_expression read' fun head => free' (List.mem_of_head? head)
  exact Program.ofText_of_lexes (lexes_assigned identifier scans scans')
    (readProgram_assign read free later)

theorem prepare_inlined (proper : name ≠ "true" ∧ name ≠ "false")
    (first : IsExpression source e) (second : IsExpression text f) :
    expressions.prepare (inlined name source text) = .ok [.value (.inline name e f)] := by
  obtain ⟨es, scans, read, -⟩ := first.scans
  obtain ⟨fs, scans', read', free'⟩ := second.scans
  have lexed := (scans'.inlineText scans proper).lexes
  rw [← String.toList_ofList (l := inlineText name source.toList text.toList)] at lexed
  exact Program.ofText_of_lexes lexed (readProgram_inlined read read' free')

/-- Assignment is inlining, except where the name is that of a truth value: there the program has
the result of its second expression, as if nothing was assigned. -/
theorem outcome_assigned {name source text : String} {e f : Expr}
    (identifier : isIdentifier name.toList = true) (free : name ≠ "return")
    (first : IsExpression source e) (second : IsExpression text f) :
    (∃ p, expressions.prepare (assigned name source text) = .ok p) ∧
    (name ≠ "true" ∧ name ≠ "false" →
      (∃ p, expressions.prepare (inlined name source text) = .ok p) ∧
      ∀ children v, outcome source children = .ok v →
        outcome (assigned name source text) children =
          outcome (inlined name source text) children) ∧
    (name = "true" ∨ name = "false" →
      ∀ children v, outcome source children = .ok v →
        outcome (assigned name source text) children = outcome text children) := by
  have prepared := prepare_assigned identifier free first second
  have run (children : List Value) (v : Value) (value : outcome source children = .ok v) :
      outcome (assigned name source text) children =
        (Expr.inline name e f).eval children [] := by
    rw [first.outcome] at value
    rw [outcome_of_prepare prepared, run_assign value]
  refine ⟨⟨_, prepared⟩, fun proper => ?_, fun truth children v value => ?_⟩
  · have inlines := prepare_inlined proper first second
    refine ⟨⟨_, inlines⟩, fun children v value => ?_⟩
    rw [run children v value, outcome_of_prepare inlines, run_value]
  · obtain ⟨_, _, read, _⟩ := first.scans
    obtain ⟨_, _, read', _⟩ := second.scans
    rw [run children v value, second.outcome, inline_truth read read' truth]

/-- The name of the variable is that of the function as well, and is written in a string; and a
truth value is the variable. -/
theorem outcome_assigned_callName :
    outcome (assigned "len" "$0 + 1" "len * len(\"len\") - len") [.int 4] =
        outcome "($0 + 1) * len(\"len\") - ($0 + 1)" [.int 4] ∧
      outcome (assigned "false" "$0 + 1" "false") [.int 4] = outcome "false" [.int 4] := by
  have source : IsExpression "$0 + 1" (.arith .add (.child 0) (.literal (.int 1))) := by
    refine Scans.isExpression_of_printable ?_ ?_
    · exact .token rfl (.space rfl (.token rfl (.space rfl (.token rfl .nil))))
    · simp [Expr.Printable, Value.Printable]
  have quoted : scan '"' "len\") - len".toList = .ok (some (.str "len"), ") - len".toList) := by
    rw [scan_quote (.inl rfl)]
    simp [readString.eq_def]
  have text : IsExpression "len * len(\"len\") - len"
      (.arith .sub (.arith .mul (.var "len") (.call "len" [.literal (.str "len")]))
        (.var "len")) := by
    refine Scans.isExpression_of_printable ?_ ?_
    · exact .token rfl (.space rfl (.token rfl (.space rfl (.token rfl (.token rfl
        (.token quoted (.token rfl (.space rfl (.token rfl (.space rfl (.token rfl .nil)))))))))))
    · simp [Expr.Printable, Expr.PrintableList, Value.Printable, IsName]
      decide
  have value : outcome "$0 + 1" [.int 4] = .ok (.int 5) := by
    rw [source.outcome]
    rfl
  have inlines : inlineText "len" "$0 + 1".toList "len * len(\"len\") - len".toList =
      "($0 + 1) * len(\"len\") - ($0 + 1)".toList := by decide +kernel
  have identifier : isIdentifier "len".toList = true := by decide
  have same := ((outcome_assigned identifier (by decide) source text).2.1 (by decide)).2 _ _ value
  rw [inlined, inlines, String.ofList_toList] at same
  have truth : isIdentifier "false".toList = true := by decide
  have literal : IsExpression "false" (.literal (.bool false)) :=
    Scans.isExpression_of_printable (.token rfl .nil) trivial
  exact ⟨same, (outcome_assigned truth (by decide) source literal).2.2 (.inr rfl) _ _ value⟩

/-- The name of a truth value is assigned to, and still read as the truth value. -/
theorem outcome_assigned_truth :
    IsExpression "5" (.literal (.int 5)) ∧ IsExpression "true" (.literal (.bool true)) ∧
      outcome "5" [] = .ok (.int 5) ∧
      outcome (assigned "true" "5" "true") [] = .ok (.bool true) ∧
      outcome (inlined "true" "5" "true") [] = .ok (.int 5) ∧
      outcome (assigned "true" "5" "true") [] ≠ outcome (inlined "true" "5" "true") [] := by
  have five : (Expr.literal (.int 5)).Printable := by simp [Expr.Printable, Value.Printable]
  have source : IsExpression "5" (.literal (.int 5)) :=
    Scans.isExpression_of_printable (.token rfl .nil) five
  have text : IsExpression "true" (.literal (.bool true)) :=
    Scans.isExpression_of_printable (.token rfl .nil) trivial
  have inlines : IsExpression (inlined "true" "5" "true") (.literal (.int 5)) := by
    have parentheses := (five.readsBack.whole.parentheses.mono (Nat.zero_le 5)).whole []
      (stops_nil 5) rfl
    have cs : inlineText "true" "5".toList "true".toList = "(5)".toList := by decide +kernel
    rw [inlined, cs, String.ofList_toList]
    exact Scans.isExpression (.token rfl (.token rfl (.token rfl .nil))) parentheses (by simp)
  have value : outcome "5" [] = .ok (.int 5) := by
    rw [source.outcome]
    rfl
  have assigns : outcome (assigned "true" "5" "true") [] = .ok (.bool true) := by
    rw [outcome_of_prepare (prepare_assigned (by decide) (by decide) source text)]
    rfl
  have inlined : outcome (inlined "true" "5" "true") [] = .ok (.int 5) := by
    rw [inlines.outcome]
    rfl
  refine ⟨source, text, value, assigns, inlined, ?_⟩
  rw [assigns, inlined]
  simp

end Outcomes

end PredictiveParsing.Action
