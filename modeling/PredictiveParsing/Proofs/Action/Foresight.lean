import PredictiveParsing.Proofs.Action.Combination
import PredictiveParsing.Proofs.Action.Reading

/-!
What a reader does is settled by the tokens that it takes and the one behind them. It gives the
same result or the same fault however the tokens go on; a result it gives as well where what
follows closes the expression, and what it took before a fault it would read to the end if it
went on in some way. This is kept by the combinations that the readers are made of.
-/
namespace PredictiveParsing.Action

theorem head?_append {taken s t : List Token} (same : s.head? = t.head?) :
    (taken ++ s).head? = (taken ++ t).head? := by
  simp [same]

/-- What stands behind an expression inside of another one, and the end of a statement. -/
def Closes : List Token → Prop
  | [] => True
  | .mark m :: _ => m ∈ [Mark.closeParen, .comma, .colon, .separator]
  | _ => False

theorem Closes.following? {s : List Token} {m : Mark} (h : Closes s)
    (other : m ∉ [Mark.closeParen, .comma, .colon, .separator]) : following? m s = none := by
  match s with
  | [] => rfl
  | .mark k :: s =>
      apply following?_cons_ne
      rintro rfl
      exact other h

theorem Closes.stops {s : List Token} (h : Closes s) (level : Nat) : Stops level s := by
  match s with
  | [] => exact stops_nil level
  | .mark k :: s =>
      simp only [Closes, List.mem_cons, List.not_mem_nil, or_false] at h
      rcases h with rfl | rfl | rfl | rfl <;> exact stops_of_plain rfl (by decide) s

theorem following?_cases (m : Mark) (s : List Token) :
    (∃ rest, s = .mark m :: rest) ∨ following? m s = none := by
  match s with
  | [] | .int _ :: _ | .float _ :: _ | .str _ :: _ | .name _ :: _ | .child _ :: _ => exact .inr rfl
  | .mark k :: s =>
      by_cases same : k = m
      · subst same
        exact .inl ⟨s, rfl⟩
      · exact .inr (following?_cons_ne same s)

theorem following?_eq_none_of_head? {s t : List Token} {m : Mark} (h : following? m s = none)
    (same : t.head? = s.head?) : following? m t = none := by
  match s, t with
  | [], [] => rfl
  | .mark k :: s, u :: t =>
      cases Option.some.inj same
      refine following?_cons_ne (fun here => ?_) t
      subst here
      rw [following?_cons] at h
      cases h
  | .int _ :: s, u :: t | .float _ :: s, u :: t | .str _ :: s, u :: t | .name _ :: s, u :: t
  | .child _ :: s, u :: t =>
      cases Option.some.inj same
      rfl

theorem joining?_cases (level : Nat) (s : List Token) :
    (∃ m rest join, Mark.joins? level m = some join ∧ s = .mark m :: rest) ∨
      joining? level s = none := by
  match s with
  | [] | .int _ :: _ | .float _ :: _ | .str _ :: _ | .name _ :: _ | .child _ :: _ => exact .inr rfl
  | .mark m :: s =>
      match joins : m.joins? level with
      | some join => exact .inl ⟨m, s, join, joins, rfl⟩
      | none => exact .inr (by rw [joining?, joins]; rfl)

theorem joining?_eq_none_of_head? {s t : List Token} {level : Nat}
    (h : joining? level s = none) (same : t.head? = s.head?) : joining? level t = none := by
  match s, t with
  | [], [] => rfl
  | .mark k :: s, u :: t =>
      cases Option.some.inj same
      rw [joining?, Option.map_eq_none_iff] at h ⊢
      exact h
  | .int _ :: s, u :: t | .float _ :: s, u :: t | .str _ :: s, u :: t | .name _ :: s, u :: t
  | .child _ :: s, u :: t =>
      cases Option.some.inj same
      rfl

namespace Reading

variable {α β : Type}

theorem ofResult_eq_ok_iff {bound : List Token → Prop}
    {x : Except Refusal (α × {rest : List Token // bound rest})} {a : α} {rest : List Token} :
    ofResult x = (.ok a, rest) ↔ Accepts x a rest := by
  constructor
  · intro h
    rcases x with r | ⟨b, left, inside⟩
    · cases h
    · cases h
      exact ⟨inside, rfl⟩
  · rintro ⟨inside, rfl⟩
    rfl

/-- With these tokens in front the reading comes to its end. An assignment is not among them. -/
def Finishes (fill : List Token) (p : Reading α) : Prop :=
  .mark .assign ∉ fill ∧ ∀ more, Closes more → ∃ a, p (fill ++ more) = (.ok a, more)

/-- Tokens with which the reading comes to its end, whatever it goes on from. -/
def Continues (q : α → Reading β) : Prop :=
  ∃ fill, (∀ more, Closes more → Closes (fill ++ more)) ∧ ∀ a, Finishes fill (q a)

/-- What the reading does once it has taken the tokens and sees the next one. -/
structure Settles (p : Reading α) (taken : List Token) (next : Option Token)
    (out : Except CodeFault α) : Prop where
  alike : ∀ more, more.head? = next → p (taken ++ more) = (out, more)
  closed : ∀ a, out = .ok a → ∀ more, Closes more → p (taken ++ more) = (.ok a, more)
  filled : ∀ fault, out = .error fault → ∃ fill, Finishes fill fun s => p (taken ++ s)

/-- The reading of the tokens is settled by those that are taken and the next one. -/
def Foresees (p : Reading α) (s : List Token) : Prop :=
  ∃ taken, s = taken ++ (p s).2 ∧ Settles p taken (p s).2.head? (p s).1

section Finishing

variable {fill : List Token} {p q : Reading α} {a : α} {m : Mark}

theorem finishes_give : Finishes [] (give a) :=
  ⟨List.not_mem_nil, fun _ _ => ⟨a, rfl⟩⟩

theorem continues_give (f : α → β) : Continues fun a => give (f a) :=
  ⟨[], fun _ closes => closes, fun _ => finishes_give⟩

theorem Finishes.andThen {q : α → Reading β} (h : Finishes fill p) (fill' : List Token)
    (closes : ∀ more, Closes more → Closes (fill' ++ more)) (next : ∀ a, Finishes fill' (q a)) :
    Finishes (fill ++ fill') (p.andThen q) := by
  have read : ∀ more, Closes more → ∃ b, p.andThen q (fill ++ fill' ++ more) = (.ok b, more) := by
    intro more hmore
    obtain ⟨a, first⟩ := h.2 (fill' ++ more) (closes more hmore)
    obtain ⟨b, second⟩ := (next a).2 more hmore
    refine ⟨b, ?_⟩
    rw [List.append_assoc, Reading.andThen, first]
    exact second
  refine ⟨fun assign => ?_, read⟩
  rcases List.mem_append.mp assign with first | second
  · exact h.1 first
  · obtain ⟨a, _⟩ := h.2 (fill' ++ []) (closes [] trivial)
    exact (next a).1 second

theorem Finishes.onMark (h : Finishes fill p) (ne : m ≠ .assign) :
    Finishes (.mark m :: fill) (onMark m p q) := by
  refine ⟨fun assign => ?_, fun more closes => ?_⟩
  · rcases List.mem_cons.mp assign with same | inside
    · cases same
      exact ne rfl
    · exact h.1 inside
  · obtain ⟨a, read⟩ := h.2 more closes
    refine ⟨a, ?_⟩
    rw [List.cons_append, Reading.onMark, following?_cons]
    exact read

end Finishing

section Foreseeing

variable {s : List Token} {p r : Reading α} {a : α} {m : Mark}

theorem Settles.congr {taken taken' : List Token} {next : Option Token}
    {out : Except CodeFault α} (h : Settles p taken next out)
    (same : ∀ more, r (taken' ++ more) = p (taken ++ more)) : Settles r taken' next out := by
  constructor
  · intro more head
    rw [same]
    exact h.alike more head
  · intro a ok more closes
    rw [same]
    exact h.closed a ok more closes
  · intro fault error
    simp only [same]
    exact h.filled fault error

/-- The first token is taken and settles how the reading goes on. -/
theorem Foresees.cons {t : Token} (h : Foresees p s) (begins : ∀ more, r (t :: more) = p more) :
    Foresees r (t :: s) := by
  obtain ⟨taken, split, settles⟩ := h
  refine ⟨t :: taken, ?_, ?_⟩
  · rw [begins, List.cons_append, ← split]
  · rw [begins]
    exact settles.congr fun more => begins (taken ++ more)

/-- Nothing is taken and nothing refused. -/
theorem foresees_of_given (a : α)
    (given : ∀ more, more.head? = s.head? → p more = (.ok a, more))
    (closed : ∀ more, Closes more → p more = (.ok a, more)) : Foresees p s := by
  have here := given s rfl
  refine ⟨[], ?_, ?_⟩
  · rw [here]
    rfl
  · rw [here]
    refine ⟨given, fun _ ok more closes => ?_, fun _ same => (nomatch same)⟩
    cases ok
    exact closed more closes

theorem foresees_give (a : α) (s : List Token) : Foresees (give a) s :=
  foresees_of_given a (fun _ _ => rfl) fun _ _ => rfl

/-- Nothing is taken and the token that is there, or the end, is refused. -/
theorem foresees_of_refused (fault : CodeFault) {fill : List Token}
    (refused : ∀ more, more.head? = s.head? → p more = (.error fault, more))
    (h : Finishes fill p) : Foresees p s := by
  have here := refused s rfl
  refine ⟨[], ?_, ?_⟩
  · rw [here]
    rfl
  · rw [here]
    exact ⟨refused, fun _ same => (nomatch same), fun _ _ => ⟨fill, h⟩⟩

theorem Settles.andThen_error {q : α → Reading β} {taken : List Token} {next : Option Token}
    {fault : CodeFault} (h : Settles p taken next (.error fault)) (continues : Continues q) :
    Settles (p.andThen q) taken next (.error fault) := by
  obtain ⟨fill, closes, finishes⟩ := continues
  refine ⟨fun more same => ?_, fun _ same => (nomatch same), fun _ _ => ?_⟩
  · rw [Reading.andThen, h.alike more same]
  · obtain ⟨first, filled⟩ := h.filled fault rfl
    exact ⟨first ++ fill, filled.andThen fill closes finishes⟩

/-- What the first reading leaves begins with what the second one takes, if that takes anything;
otherwise the second one tells where the first one ends. -/
theorem Settles.andThen_ok {q : α → Reading β} {taken taken' rest : List Token}
    {out : Except CodeFault β} (h : Settles p taken (taken' ++ rest).head? (.ok a))
    (next : Settles (q a) taken' rest.head? out) (continues : Continues q) :
    Settles (p.andThen q) (taken ++ taken') rest.head? out := by
  have through : ∀ more, p (taken ++ (taken' ++ more)) = (.ok a, taken' ++ more) →
      p.andThen q (taken ++ taken' ++ more) = q a (taken' ++ more) := by
    intro more first
    rw [List.append_assoc, Reading.andThen, first]
  -- if the second reading takes nothing, what closes it stands behind the first one as well
  constructor
  · intro more same
    rw [through more (h.alike _ (head?_append same))]
    exact next.alike more same
  · intro b ok more closes
    cases taken' with
    | nil =>
        rw [through more (h.closed a rfl more closes)]
        exact next.closed b ok more closes
    | cons t taken' =>
        rw [through more (h.alike _ rfl)]
        exact next.closed b ok more closes
  · intro fault error
    cases taken' with
    | nil =>
        obtain ⟨fill, closes, finishes⟩ := continues
        refine ⟨fill, (finishes a).1, fun more hmore => ?_⟩
        obtain ⟨b, second⟩ := (finishes a).2 more hmore
        exact ⟨b, (through (fill ++ more) (h.closed a rfl _ (closes more hmore))).trans second⟩
    | cons t taken' =>
        obtain ⟨fill, plain, filled⟩ := next.filled fault error
        refine ⟨fill, plain, fun more hmore => ?_⟩
        obtain ⟨b, second⟩ := filled more hmore
        exact ⟨b, (through (fill ++ more) (h.alike _ rfl)).trans second⟩

theorem Foresees.andThen {q : α → Reading β} (h : Foresees p s)
    (next : ∀ a rest, p s = (.ok a, rest) → Foresees (q a) rest) (continues : Continues q) :
    Foresees (p.andThen q) s := by
  obtain ⟨taken, split, settles⟩ := h
  rcases read : p s with ⟨fault | a, rest⟩
  · have whole : p.andThen q s = (.error fault, rest) := by rw [Reading.andThen, read]
    rw [read] at split settles
    refine ⟨taken, ?_, ?_⟩
    · rw [whole]
      exact split
    · rw [whole]
      exact settles.andThen_error continues
  · have whole : p.andThen q s = q a rest := by rw [Reading.andThen, read]
    obtain ⟨taken', split', settles'⟩ := next a rest read
    rw [read] at split settles
    refine ⟨taken ++ taken', ?_, ?_⟩
    · rw [whole, List.append_assoc, ← split']
      exact split
    · rw [whole]
      refine Settles.andThen_ok ?_ settles' continues
      rw [← split']
      exact settles

theorem Foresees.map (h : Foresees p s) (f : α → β) :
    Foresees (p.andThen fun a => give (f a)) s :=
  h.andThen (fun a rest _ => foresees_give (f a) rest) (continues_give f)

/-- Where no mark stands the reading is another one, which takes something if it succeeds. -/
theorem Foresees.onMark {q : Reading α} {fill : List Token}
    (taken : ∀ rest, s = .mark m :: rest → Foresees p rest)
    (other : following? m s = none → Foresees q s)
    (takes : following? m s = none → ∀ a, q s ≠ (.ok a, s))
    (finishes : Finishes fill p) (ne : m ≠ .assign) : Foresees (onMark m p q) s := by
  rcases following?_cases m s with ⟨rest, rfl⟩ | mark
  · refine (taken rest rfl).cons fun more => ?_
    rw [Reading.onMark, following?_cons]
  · have whole : ∀ t, t.head? = s.head? → Reading.onMark m p q t = q t := by
      intro t same
      rw [Reading.onMark, following?_eq_none_of_head? mark same]
    obtain ⟨taken, split, settles⟩ := other mark
    cases taken with
    | nil =>
        -- `q` refuses what is there, and the reading could have gone on with the mark instead
        rcases read : q s with ⟨fault | a, rest⟩
        · rw [read] at split settles
          cases split
          refine foresees_of_refused fault (fun more same => ?_) (finishes.onMark ne)
          rw [whole more same]
          exact settles.alike more same
        · rw [read] at split
          cases split
          exact absurd read (takes mark a)
    | cons t taken =>
        refine ⟨t :: taken, ?_, ?_⟩
        · rw [whole s rfl]
          exact split
        · rw [whole s rfl]
          refine settles.congr fun more => whole _ ?_
          rw [split]
          rfl

/-- Where no mark stands the mark is asked for. -/
theorem Foresees.require {fill : List Token} {text : String}
    (h : ∀ rest, s = .mark m :: rest → Foresees p rest) (finishes : Finishes fill p)
    (ne : m ≠ .assign) : Foresees (require m text p) s := by
  rcases following?_cases m s with ⟨rest, rfl⟩ | mark
  · refine (h rest rfl).cons fun more => ?_
    rw [Reading.require, Reading.onMark, following?_cons]
  · refine foresees_of_refused (.expectedMark text) (fun more same => ?_) (finishes.onMark ne)
    rw [Reading.require, Reading.onMark, following?_eq_none_of_head? mark same]
    rfl

/-- Where no mark stands the reading is done. -/
theorem Foresees.option (h : ∀ rest, s = .mark m :: rest → Foresees p rest)
    (other : m ∉ [Mark.closeParen, .comma, .colon, .separator]) :
    Foresees (Reading.onMark m p (give a)) s := by
  rcases following?_cases m s with ⟨rest, rfl⟩ | mark
  · refine (h rest rfl).cons fun more => ?_
    rw [Reading.onMark, following?_cons]
  · have whole : ∀ t, following? m t = none → Reading.onMark m p (give a) t = (.ok a, t) := by
      intro t absent
      rw [Reading.onMark, absent]
      rfl
    exact foresees_of_given a (fun more same => whole more (following?_eq_none_of_head? mark same))
      fun more closes => whole more (closes.following? other)

/-- Where no operator stands the reading is done. -/
theorem foresees_onOperator {level : Nat} {p : (Expr → Expr → Expr) → Reading α}
    (h : ∀ join (m : Mark) rest, s = .mark m :: rest → Foresees (p join) rest) :
    Foresees (onOperator level p a) s := by
  rcases joining?_cases level s with ⟨m, rest, join, joins, rfl⟩ | operator
  · refine (h join m rest rfl).cons fun more => ?_
    rw [onOperator, joining?_cons joins]
  · have whole : ∀ t, joining? level t = none → onOperator level p a t = (.ok a, t) := by
      intro t absent
      rw [onOperator, absent]
    exact foresees_of_given a (fun more same => whole more (joining?_eq_none_of_head? operator same))
      fun more closes => whole more ((closes.stops level).2 level (Nat.le_refl level))

/-- A token that is not refused settles how the reading goes on. -/
theorem foresees_take {next : Token → Except CodeFault (Reading α)} {atEnd : CodeFault}
    {fill : List Token} (h : ∀ t rest p, s = t :: rest → next t = .ok p → Foresees p rest)
    (finishes : Finishes fill (take next atEnd)) : Foresees (take next atEnd) s := by
  cases s with
  | nil =>
      refine foresees_of_refused atEnd (fun more same => ?_) finishes
      rw [List.head?_eq_none_iff.mp same]
      rfl
  | cons t rest =>
      cases begins : next t with
      | ok p =>
          refine (h t rest p rfl begins).cons fun more => ?_
          rw [take, begins]
      | error fault =>
          refine foresees_of_refused fault (fun more same => ?_) finishes
          obtain ⟨more, rfl⟩ := List.head?_eq_some_iff.mp same
          rw [take, begins]

end Foreseeing

section Operands

variable {fill : List Token} {p : Reading α} {q : α → Reading β} {t : Token}

/-- The reading has come to its end where the expression is closed. -/
theorem continues_of_closed (h : ∀ a more, Closes more → ∃ b, q a more = (.ok b, more)) :
    Continues q :=
  ⟨[], fun _ closes => closes, fun a => ⟨List.not_mem_nil, h a⟩⟩

theorem Finishes.andThen_closed (h : Finishes fill p)
    (closed : ∀ a more, Closes more → ∃ b, q a more = (.ok b, more)) :
    Finishes fill (p.andThen q) := by
  have both := h.andThen (q := q) [] (fun _ closes => closes)
    fun a => ⟨List.not_mem_nil, closed a⟩
  rw [List.append_nil] at both
  exact both

theorem Finishes.map (h : Finishes fill p) (f : α → β) :
    Finishes fill (p.andThen fun a => give (f a)) :=
  h.andThen_closed fun a _ _ => ⟨f a, rfl⟩

theorem tail_closed (level : Nat) (left : Expr) (more : List Token) (h : Closes more) :
    ∃ e, tail level left more = (.ok e, more) := by
  refine ⟨left, ?_⟩
  rw [tail_eq, onOperator, (h.stops _).2 _ (Nat.le_refl _)]

theorem branches_closed (test : Expr) (more : List Token) (h : Closes more) :
    ∃ e, branches test more = (.ok e, more) := by
  refine ⟨test, ?_⟩
  rw [branches, onMark, h.following? (by decide)]
  rfl

theorem primary_name (x : String) (s : List Token) : primary (.name x :: s) = named x s := by
  rw [primary_eq]
  rfl

/-- A token that is an expression by itself. -/
def Operand (t : Token) : Prop :=
  (∀ m, t ≠ .mark m) ∧ Finishes [t] primary

theorem operand_int (n : Int64) : Operand (.int n) := by
  refine ⟨fun _ => nofun, by simp, fun more _ => ⟨.literal (.int n), ?_⟩⟩
  rw [primary_eq]
  rfl

theorem operand_name (x : String) : Operand (.name x) := by
  refine ⟨fun _ => nofun, by simp, fun more closes => ?_⟩
  rw [List.singleton_append, primary_name, named]
  by_cases yes : x = "true"
  · exact ⟨.literal (.bool true), by rw [if_pos yes]; rfl⟩
  by_cases no : x = "false"
  · exact ⟨.literal (.bool false), by rw [if_neg yes, if_pos no]; rfl⟩
  refine ⟨.var x, ?_⟩
  rw [if_neg yes, if_neg no, onMark, closes.following? (by decide)]
  rfl

theorem Operand.unary (h : Operand t) : Finishes [t] unary := by
  have unsigned : ∀ m more, following? m (t :: more) = none := by
    intro m more
    rcases following?_cases m (t :: more) with ⟨rest, same⟩ | none
    · exact absurd (List.cons.inj same).1 (h.1 m)
    · exact none
  refine ⟨h.2.1, fun more closes => ?_⟩
  obtain ⟨e, read⟩ := h.2.2 more closes
  refine ⟨e, ?_⟩
  rw [unary_eq, onMark, List.singleton_append, unsigned, onMark, unsigned]
  exact read

theorem Operand.binary (h : Operand t) (level : Nat) : Finishes [t] (binary level) := by
  induction level with
  | zero =>
      rw [binary_zero]
      exact h.unary
  | succ level ih =>
      rw [binary_succ]
      exact ih.andThen_closed (tail_closed level)

theorem Operand.expr (h : Operand t) : Finishes [t] expr := by
  rw [expr_eq]
  exact (h.binary 5).andThen_closed branches_closed

end Operands

section Readers

variable {s : List Token}

theorem length_lt_of_cons {rest : List Token} {t : Token} (h : s = t :: rest) :
    rest.length < s.length := by
  rw [h]
  exact Nat.lt_succ_self rest.length

/-- What is read from the tokens is settled by those that are taken and the next one, for each
reader. -/
structure ReadersForesee (s : List Token) : Prop where
  unary : Foresees unary s
  binary : ∀ level, Foresees (binary level) s
  tail : ∀ level left, Foresees (tail level left) s
  expr : Foresees expr s
  arguments : Foresees arguments s

theorem read_of_andThen_give {p : Reading α} {f : α → β} {b : β} {rest : List Token}
    (h : (p.andThen fun a => give (f a)) s = (.ok b, rest)) : ∃ a, p s = (.ok a, rest) := by
  rw [andThen] at h
  rcases read : p s with ⟨fault | a, rest'⟩
  · rw [read] at h
    cases h
  · rw [read] at h
    cases h
    exact ⟨a, rfl⟩

theorem read_of_require {p : Reading α} {m : Mark} {text : String} {a : α} {rest : List Token}
    (h : require m text p s = (.ok a, rest)) :
    ∃ behind, s = .mark m :: behind ∧ p behind = (.ok a, rest) := by
  rcases following?_cases m s with ⟨behind, rfl⟩ | absent
  · rw [require, onMark, following?_cons] at h
    exact ⟨behind, rfl, h⟩
  · rw [require, onMark, absent] at h
    cases h

theorem continues_closeParen : Continues fun e : Expr => require .closeParen ")" (give e) :=
  ⟨[.mark .closeParen], fun _ _ => by simp [Closes], fun _ => finishes_give.onMark (by decide)⟩

theorem continues_further : Continues further := by
  refine ⟨[.mark .closeParen], fun _ _ => by simp [Closes], fun e => ?_⟩
  exact finishes_give.onMark (by decide)

theorem finishes_arguments : Finishes [.int 1, .mark .closeParen] arguments := by
  have int := (operand_int 1).expr
  rw [arguments_eq]
  exact int.andThen [.mark .closeParen] (fun _ _ => by simp [Closes])
    fun e => finishes_give.onMark (by decide)

variable (shorter : ∀ r : List Token, r.length < s.length → ReadersForesee r)

include shorter

theorem foresees_named (x : String) (rest : List Token) (h : rest.length < s.length) :
    Foresees (named x) rest := by
  rw [named]
  split
  · exact foresees_give _ rest
  split
  · exact foresees_give _ rest
  refine Foresees.option (fun behind opens => ?_) (by decide)
  have fewer := Nat.lt_trans (length_lt_of_cons opens) h
  refine Foresees.onMark (fun rest _ => foresees_give _ rest) (fun _ => ?_) (fun _ e read => ?_)
    finishes_give (by decide)
  · exact (shorter behind fewer).arguments.map (Expr.call x)
  · obtain ⟨es, read⟩ := read_of_andThen_give read
    exact Nat.lt_irrefl _ (length_of_arguments read)

theorem foresees_primary : Foresees primary s := by
  have int := operand_int 1
  rw [primary_eq]
  refine foresees_take (fun t rest p same begins => ?_) (primary_eq ▸ int.2)
  have fewer := length_lt_of_cons same
  match t with
  | .int _ | .float _ | .str _ | .child _ =>
      cases begins
      exact foresees_give _ rest
  | .name x =>
      cases begins
      exact foresees_named shorter x rest fewer
  | .mark m =>
      rw [begun] at begins
      split at begins
      · cases begins
        refine (shorter rest fewer).expr.andThen (fun e rest _ => ?_) continues_closeParen
        exact Foresees.require (fun rest _ => foresees_give e rest) finishes_give (by decide)
      · cases begins

theorem foresees_unary : Foresees unary s := by
  have int := (operand_int 1).unary
  have signed : ∀ (f : Expr → Expr) m rest, s = .mark m :: rest →
      Foresees (unary.andThen fun e => give (f e)) rest :=
    fun f m rest same => (shorter rest (length_lt_of_cons same)).unary.map f
  rw [unary_eq]
  refine Foresees.onMark (signed _ _) (fun unsigned => ?_) (fun unsigned e read => ?_)
    (int.map Expr.neg) (by decide)
  · refine Foresees.onMark (signed _ _) (fun _ => foresees_primary shorter) (fun _ e read => ?_)
      (int.map Expr.not) (by decide)
    exact Nat.lt_irrefl _ (length_of_primary read)
  · have whole : unary s = (.ok e, s) := by
      rw [unary_eq, onMark, unsigned]
      exact read
    exact Nat.lt_irrefl _ (length_of_unary whole)

theorem foresees_binary (level : Nat) : Foresees (binary level) s := by
  induction level with
  | zero =>
      rw [binary_zero]
      exact foresees_unary shorter
  | succ level ih =>
      rw [binary_succ]
      refine ih.andThen (fun left rest read => ?_) (continues_of_closed (tail_closed level))
      exact (shorter rest (length_of_binary read)).tail level left

theorem foresees_tail (level : Nat) (left : Expr) : Foresees (tail level left) s := by
  rw [tail_eq]
  refine foresees_onOperator fun join m rest same => ?_
  have fewer := length_lt_of_cons same
  rw [joined]
  refine ((shorter rest fewer).binary level).andThen (fun right behind read => ?_)
    (continues_of_closed fun right more closes => ?_)
  · split
    · exact (shorter behind (Nat.lt_trans (length_of_binary read) fewer)).tail level _
    · exact foresees_give _ behind
  · split
    · exact tail_closed level _ more closes
    · exact ⟨_, rfl⟩

theorem foresees_expr : Foresees expr s := by
  have int := (operand_int 1).expr
  rw [expr_eq]
  refine (foresees_binary shorter 5).andThen (fun test rest read => ?_)
    (continues_of_closed branches_closed)
  refine Foresees.option (fun first same => ?_) (by decide)
  have fewer := Nat.lt_trans (length_lt_of_cons same) (length_of_binary read)
  refine (shorter first fewer).expr.andThen (fun a rest read => ?_) ?_
  · refine Foresees.require (fun second same => ?_) (int.map _) (by decide)
    have fewer' := Nat.lt_trans (length_lt_of_cons same) (length_of_expr read)
    exact (shorter second (Nat.lt_trans fewer' fewer)).expr.map (Expr.cond test a)
  · refine ⟨[.mark .colon, .int 1], fun _ _ => by simp [Closes], fun a => ?_⟩
    exact (int.map _).onMark (by decide)

theorem foresees_arguments : Foresees arguments s := by
  rw [arguments_eq]
  refine (foresees_expr shorter).andThen (fun e rest read => ?_) continues_further
  refine Foresees.onMark (fun rest _ => foresees_give _ rest) (fun _ => ?_) (fun _ es read => ?_)
    finishes_give (by decide)
  · refine Foresees.require (fun behind same => ?_) (finishes_arguments.map _) (by decide)
    have fewer := Nat.lt_trans (length_lt_of_cons same) (length_of_expr read)
    exact (shorter behind fewer).arguments.map (e :: ·)
  · obtain ⟨behind, same, read⟩ := read_of_require read
    obtain ⟨more, read⟩ := read_of_andThen_give read
    exact Nat.lt_asymm (length_lt_of_cons same) (length_of_arguments read)

omit shorter

theorem readersForesee (s : List Token) : ReadersForesee s := by
  -- only the left operand is read from as many tokens, and it is of a lower level
  induction h : s.length using Nat.strongRecOn generalizing s with
  | _ n ih =>
      have shorter : ∀ r : List Token, r.length < s.length → ReadersForesee r :=
        fun r fewer => ih r.length (h ▸ fewer) r rfl
      exact ⟨foresees_unary shorter, foresees_binary shorter, foresees_tail shorter,
        foresees_expr shorter, foresees_arguments shorter⟩

/-- An expression that is read from all of its tokens is read from them in front of what closes
it. -/
theorem expr_append {es more : List Token} {e : Expr} (h : expr es = (.ok e, []))
    (closes : Closes more) : expr (es ++ more) = (.ok e, more) := by
  obtain ⟨taken, split, settles⟩ := (readersForesee es).expr
  rw [h, List.append_nil] at split
  subst split
  exact settles.closed e (by rw [h]) more closes

end Readers

end Reading
end PredictiveParsing.Action
