import PredictiveParsing.Action.Evaluator
import PredictiveParsing.Proofs.Action.Foresight
import PredictiveParsing.Proofs.Action.Scanning

/-!
Malformed code is refused at the first token that cannot stand where it stands: what is in front
of it begins a program, and no program goes on with it. A statement is settled by what is taken
and the next token as its expression is, although an assignment is told by its second token.
-/
namespace PredictiveParsing.Action

namespace Reading

section Statements

variable {s t : List Token} {x : String}

def statement : Reading Statement := fun s => ofResult (readStatement s)

/-- A statement with the expression that comes next. -/
def stating (f : Expr → Statement) : Reading Statement := expr.andThen fun e => give (f e)

theorem statement_result (s : List Token) :
    statement (.name "return" :: s) = stating .result s := by
  rw [statement, readStatement, if_pos rfl, stating, andThen, expr]
  rcases readExpr s with r | ⟨e, rest, _⟩ <;> rfl

theorem statement_assignment (free : x ≠ "return") (s : List Token) :
    statement (.name x :: .mark .assign :: s) = stating (.assign x) s := by
  rw [statement, readStatement, if_neg free, following?_cons, stating, andThen, expr]
  simp only
  rcases readExpr s with r | ⟨e, rest, _⟩ <;> rfl

/-- The tokens begin as no assignment and no result do. -/
def Plain (s : List Token) : Prop :=
  ∀ x more, s = .name x :: more → x ≠ "return" ∧ following? .assign more = none

theorem readStatement_plain (h : Plain s) : readStatement s = match readExpr s with
    | .error r => .error r
    | .ok (e, rest) => .ok (.value e, rest) := by
  cases s with
  | nil => rfl
  | cons t more =>
      cases t with
      | int _ | float _ | str _ | mark _ | child _ => rfl
      | name x =>
          obtain ⟨free, unassigned⟩ := h x more rfl
          simp only [readStatement, if_neg free, unassigned]
          cases readExpr (.name x :: more) <;> rfl

theorem statement_plain (h : Plain s) : statement s = stating .value s := by
  rw [statement, readStatement_plain h, stating, andThen, expr]
  rcases readExpr s with r | ⟨e, rest, _⟩ <;> rfl

theorem statement_cases (s : List Token) :
    (∃ rest, s = .name "return" :: rest) ∨
      (∃ x rest, x ≠ "return" ∧ s = .name x :: .mark .assign :: rest) ∨ Plain s := by
  match s with
  | [] | .int _ :: _ | .float _ :: _ | .str _ :: _ | .mark _ :: _ | .child _ :: _ =>
      exact .inr (.inr fun x more same => by cases same)
  | .name x :: s =>
      by_cases free : x = "return"
      · subst free
        exact .inl ⟨s, rfl⟩
      rcases following?_cases .assign s with ⟨rest, rfl⟩ | unassigned
      · exact .inr (.inl ⟨x, rest, free, rfl⟩)
      · refine .inr (.inr fun y more same => ?_)
        cases same
        exact ⟨free, unassigned⟩

theorem Plain.replace {u : Token} (h : Plain (u :: s))
    (unassigned : following? .assign s = none → following? .assign t = none) : Plain (u :: t) := by
  intro x more same
  cases same
  obtain ⟨free, before⟩ := h x s rfl
  exact ⟨free, unassigned before⟩

theorem following?_append {m : Mark} {taken : List Token} (h : following? m (taken ++ s) = none)
    (next : following? m t = none) : following? m (taken ++ t) = none := by
  match taken with
  | [] => exact next
  | u :: taken => exact following?_eq_none_of_head? h rfl

theorem unassigned_of_finishes {fill more : List Token} {p : Reading Statement}
    (h : Finishes fill p) (closes : Closes more) : following? .assign (fill ++ more) = none := by
  match fill with
  | [] => exact closes.following? (by decide)
  | u :: fill =>
      rcases following?_cases .assign (u :: fill ++ more) with ⟨rest, same⟩ | absent
      · cases same
        exact absurd List.mem_cons_self h.1
      · exact absent

theorem finishes_int : Finishes [.int 1] statement := by
  have read := (operand_int 1).expr.map Statement.value
  refine ⟨read.1, fun more closes => ?_⟩
  obtain ⟨st, read⟩ := read.2 more closes
  refine ⟨st, ?_⟩
  rw [statement_plain (fun x more same => by cases same)]
  exact read

/-- Where the expression takes nothing, there is no name. -/
theorem plain_of_refused {fault : CodeFault}
    (h : ∀ more, more.head? = s.head? → stating .value more = (.error fault, more)) (t : List Token)
    (same : t.head? = s.head?) : Plain t := by
  rintro x more rfl
  obtain ⟨e, read⟩ := (operand_name x).expr.2 [] trivial
  have refused := h [.name x] same
  rw [stating, andThen, ← List.append_nil [Token.name x], read] at refused
  cases refused

theorem foresees_stating (f : Expr → Statement) (s : List Token) : Foresees (stating f) s :=
  (readersForesee s).expr.map f

theorem foresees_plain (plain : Plain s) : Foresees statement s := by
  have whole := statement_plain plain
  obtain ⟨taken, split, settles⟩ := foresees_stating .value s
  -- what comes next tells an assignment only behind a name, so that it does not where nothing is
  -- taken; otherwise the second token is taken too or is the next one
  cases taken with
  | nil =>
      rcases read : stating .value s with ⟨fault | st, rest⟩
      · rw [read] at split settles
        cases split
        have refused := settles.alike
        refine foresees_of_refused fault (fun more same => ?_) finishes_int
        rw [statement_plain (plain_of_refused refused more same)]
        exact refused more same
      · obtain ⟨e, first⟩ := read_of_andThen_give read
        rw [read] at split
        cases split
        exact absurd (length_of_expr first) (Nat.lt_irrefl _)
  | cons u taken =>
      rw [split] at plain
      have inside : ∀ more, (following? .assign (taken ++ (stating .value s).2) = none →
          following? .assign (taken ++ more) = none) →
          statement (u :: taken ++ more) = stating .value (u :: taken ++ more) :=
        fun more unassigned => statement_plain (plain.replace unassigned)
      refine ⟨u :: taken, ?_, ?_⟩
      · rw [whole]
        exact split
      · rw [whole]
        constructor
        · intro more same
          rw [inside more fun h => following?_eq_none_of_head? h (head?_append same)]
          exact settles.alike more same
        · intro st ok more closes
          rw [inside more fun h => following?_append h (closes.following? (by decide))]
          exact settles.closed st ok more closes
        · intro fault error
          obtain ⟨fill, filled⟩ := settles.filled fault error
          refine ⟨fill, filled.1, fun more closes => ?_⟩
          have unassigned := unassigned_of_finishes filled closes
          obtain ⟨st, read⟩ := filled.2 more closes
          exact ⟨st, (inside _ fun h => following?_append h unassigned).trans read⟩

theorem foresees_statement (s : List Token) : Foresees statement s := by
  rcases statement_cases s with ⟨rest, rfl⟩ | ⟨x, rest, free, rfl⟩ | plain
  · exact (foresees_stating .result rest).cons statement_result
  · have second : Foresees (fun s => statement (.name x :: s)) (.mark .assign :: rest) :=
      (foresees_stating (.assign x) rest).cons (statement_assignment free)
    exact second.cons fun _ => rfl
  · exact foresees_plain plain

end Statements
end Reading

section Programs

/-- The tokens are a program. -/
def IsProgram (s : List Token) : Prop :=
  ∃ p, readProgram s = .ok p

theorem accepts_of_statement {s rest : List Token} {st : Statement}
    (h : Reading.statement s = (.ok st, rest)) : Accepts (readStatement s) st rest :=
  Reading.ofResult_eq_ok_iff.mp h

theorem readProgram_separator (s : List Token) :
    readProgram (.mark .separator :: s) = readProgram s := by
  rw [readProgram, following?_cons]

theorem isProgram_of_statement {s : List Token} {st : Statement}
    (h : Reading.statement s = (.ok st, [])) : IsProgram s :=
  ⟨[st], readProgram_last (accepts_of_statement h)⟩

theorem readProgram_of_refused {s rest : List Token} {fault : CodeFault}
    (h : Reading.statement s = (.error fault, rest)) (some : s ≠ [])
    (begins : following? .separator s = none) : readProgram s = .error ⟨fault, rest⟩ := by
  obtain ⟨t, s, rfl⟩ := List.exists_cons_of_ne_nil some
  rw [Reading.statement] at h
  rcases read : readStatement (t :: s) with r | ⟨st, rest', fewer⟩
  · rw [read] at h
    cases h
    rw [readProgram]
    simp only [begins, read]
  · rw [read] at h
    cases h

theorem readProgram_of_unended {s rest : List Token} {st : Statement}
    (h : Reading.statement s = (.ok st, rest)) (some : rest ≠ [])
    (unended : following? .separator rest = none) :
    readProgram s = .error ⟨.expectedStatementEnd, rest⟩ := by
  obtain ⟨t, more, rfl, begins⟩ := readStatement_begins (accepts_of_statement h)
  obtain ⟨fewer, read⟩ := accepts_of_statement h
  obtain ⟨u, rest, rfl⟩ := List.exists_cons_of_ne_nil some
  rw [readProgram]
  simp only [begins, read, unended]

theorem readProgram_of_next {s rest : List Token} {st : Statement} {r : Refusal}
    (h : Reading.statement s = (.ok st, .mark .separator :: rest))
    (later : readProgram rest = .error r) : readProgram s = .error r := by
  obtain ⟨t, more, rfl, begins⟩ := readStatement_begins (accepts_of_statement h)
  obtain ⟨fewer, read⟩ := accepts_of_statement h
  rw [readProgram]
  simp only [begins, read, following?_cons, later]

/-- What stands before the refused token begins a program, and as long as that token comes next
it is refused. -/
def FirstImpossible (s : List Token) (r : Refusal) : Prop :=
  ∃ taken, s = taken ++ r.rest ∧ (∃ more, IsProgram (taken ++ more)) ∧
    ∀ more, more.head? = r.rest.head? → readProgram (taken ++ more) = .error ⟨r.fault, more⟩

theorem FirstImpossible.separator {s : List Token} {r : Refusal} (h : FirstImpossible s r) :
    FirstImpossible (.mark .separator :: s) r := by
  obtain ⟨taken, rfl, ⟨more, p, read⟩, refused⟩ := h
  refine ⟨.mark .separator :: taken, rfl, ⟨more, p, ?_⟩, fun more same => ?_⟩
  · rw [List.cons_append, readProgram_separator, read]
  · rw [List.cons_append, readProgram_separator]
    exact refused more same

section Statements

variable {s taken rest : List Token} {st : Statement} {r : Refusal}

theorem FirstImpossible.next {next : Option Token} (h : FirstImpossible rest r)
    (settles : Reading.statement.Settles taken next (.ok st))
    (separator : next = some (.mark .separator)) :
    FirstImpossible (taken ++ .mark .separator :: rest) r := by
  obtain ⟨later, rfl, ⟨more, p, read⟩, refused⟩ := h
  refine ⟨taken ++ .mark .separator :: later, by simp, ⟨more, st :: p, ?_⟩, fun more same => ?_⟩
  · rw [List.append_assoc]
    exact readProgram_next (accepts_of_statement (settles.alike _ separator.symm)) read
  · rw [List.append_assoc]
    exact readProgram_of_next (settles.alike _ separator.symm) (refused more same)

theorem firstImpossible_of_unended
    (settles : Reading.statement.Settles taken rest.head? (.ok st)) (some : rest ≠ [])
    (unended : following? .separator rest = none) :
    FirstImpossible (taken ++ rest) ⟨.expectedStatementEnd, rest⟩ := by
  refine ⟨taken, rfl, ⟨[], isProgram_of_statement (settles.closed st rfl [] trivial)⟩, ?_⟩
  intro more same
  refine readProgram_of_unended (settles.alike more same) (fun none => ?_)
    (following?_eq_none_of_head? unended same)
  rw [none] at same
  exact some (List.head?_eq_none_iff.mp same.symm)

theorem firstImpossible_of_refused {fault : CodeFault}
    (settles : Reading.statement.Settles taken rest.head? (.error fault))
    (some : taken ++ rest ≠ []) (begins : following? .separator (taken ++ rest) = none) :
    FirstImpossible (taken ++ rest) ⟨fault, rest⟩ := by
  obtain ⟨fill, -, filled⟩ := settles.filled fault rfl
  obtain ⟨st, read⟩ := filled [] trivial
  rw [List.append_nil] at read
  refine ⟨taken, rfl, ⟨fill, isProgram_of_statement read⟩, fun more same => ?_⟩
  have first : (taken ++ more).head? = (taken ++ rest).head? := head?_append same
  refine readProgram_of_refused (settles.alike more same) (fun none => ?_)
    (following?_eq_none_of_head? begins first)
  rw [none] at first
  exact some (List.head?_eq_none_iff.mp first.symm)

end Statements

theorem firstImpossible_of_error {s : List Token} {r : Refusal} (h : readProgram s = .error r) :
    FirstImpossible s r := by
  induction size : s.length using Nat.strongRecOn generalizing s r with
  | _ n ih =>
  rcases following?_cases .separator s with ⟨rest, rfl⟩ | begins
  · rw [readProgram_separator] at h
    exact (ih rest.length (by simp at size; omega) h rfl).separator
  by_cases some : s = []
  · subst some
    rw [readProgram] at h
    cases h
  obtain ⟨taken, split, settles⟩ := Reading.foresees_statement s
  rcases read : Reading.statement s with ⟨fault | st, rest⟩
  · rw [readProgram_of_refused read some begins] at h
    cases h
    rw [read] at split settles
    subst split
    exact firstImpossible_of_refused settles some begins
  rw [read] at split settles
  rcases following?_cases .separator rest with ⟨behind, rfl⟩ | unended
  · cases later : readProgram behind with
    | ok p =>
        rw [readProgram_next (accepts_of_statement read) later] at h
        cases h
    | error r' =>
        rw [readProgram_of_next read later] at h
        cases h
        subst split
        exact (ih behind.length (by simp at size; omega) later rfl).next settles rfl
  by_cases none : rest = []
  · subst none
    obtain ⟨p, whole⟩ := isProgram_of_statement read
    rw [whole] at h
    cases h
  · rw [readProgram_of_unended read none unended] at h
    cases h
    subst split
    exact firstImpossible_of_unended settles none unended

end Programs

section Texts

/-- The token stands in the text at its offset. -/
def Lexeme.StandsIn (l : Lexeme) (text : List Char) : Prop :=
  ∃ before c cs rest, text = before ++ c :: cs ∧ l.offset = Text.byteLength before ∧
    scan c cs = .ok (some l.token, rest)

variable {before cs : List Char} {total : Nat}

theorem offset_eq (h : total = Text.byteLength (before ++ cs)) :
    total - Text.byteLength cs = Text.byteLength before := by
  rw [h, Text.byteLength_append, Nat.add_sub_cancel]

theorem exists_front {c : Char} {rest : List Char} {token : Option Token}
    (scanned : scan c cs = .ok (token, rest)) (before : List Char) :
    ∃ front, before ++ c :: cs = front ++ rest := by
  obtain ⟨skipped, rfl⟩ := scan_suffix scanned
  exact ⟨before ++ c :: skipped, by simp⟩

theorem standsIn_of_lexemes (before : List Char) {ls : List Lexeme}
    (h : total = Text.byteLength (before ++ cs))
    (read : lexemes total cs = .ok ls) : ∀ l ∈ ls, l.StandsIn (before ++ cs) := by
  fun_induction lexemes total cs generalizing before ls with
  | case1 =>
      cases read
      exact nofun
  | case2 | case3 => cases read
  | case4 c cs rest more later token scanned _ ih =>
      cases read
      obtain ⟨front, same⟩ := exists_front scanned before
      refine List.forall_mem_cons.mpr ⟨⟨before, c, cs, rest, rfl, offset_eq h, scanned⟩, ?_⟩
      rw [same] at h ⊢
      exact ih front h later
  | case5 c cs rest more later scanned _ ih =>
      cases read
      obtain ⟨front, same⟩ := exists_front scanned before
      rw [same] at h ⊢
      exact ih front h later

theorem boundary_of_lexemes (before : List Char) {e : ActionError}
    (h : total = Text.byteLength (before ++ cs))
    (read : lexemes total cs = .error e) :
    ∃ front behind fault, before ++ cs = front ++ behind ∧
      e = .malformed (Text.byteLength front) fault := by
  fun_induction lexemes total cs generalizing before e with
  | case1 | case4 | case5 => cases read
  | case2 c cs =>
      cases read
      exact ⟨before, c :: cs, _, rfl, by rw [offset_eq h]⟩
  | case3 c cs token rest scanned e' failed ih =>
      cases read
      obtain ⟨front, same⟩ := exists_front scanned before
      rw [same] at h ⊢
      exact ih front h failed

theorem isValid_of_append {text : String} {behind : List Char}
    (h : text.toList = before ++ behind) :
    String.Pos.Raw.IsValid text ⟨Text.byteLength before⟩ := by
  rw [String.Pos.Raw.isValid_iff_exists_append]
  refine ⟨String.ofList before, String.ofList behind, ?_, ?_⟩
  · rw [← String.ofList_append, ← h, String.ofList_toList]
  · rw [String.rawEndPos, ← Text.byteLength_toList, String.toList_ofList]

theorem Lexeme.StandsIn.isValid {text : String} {l : Lexeme} (h : l.StandsIn text.toList) :
    String.Pos.Raw.IsValid text ⟨l.offset⟩ := by
  obtain ⟨before, c, cs, rest, same, offset, _⟩ := h
  rw [offset]
  exact isValid_of_append same

/-- The tokens without their places. -/
def tokensOf (ls : List Lexeme) : List Token :=
  ls.map (·.token)

theorem offset_cases {ls : List Lexeme} {taken : List Token} {r : Refusal}
    (split : tokensOf ls = taken ++ r.rest) (total : Nat) :
    (r.rest = [] ∧ r.offset total ls = total) ∨
      ∃ l behind, ls[taken.length]? = some l ∧ r.rest = l.token :: behind ∧
        r.offset total ls = l.offset := by
  have size : ls.length = taken.length + r.rest.length := by
    rw [← List.length_append, ← split, tokensOf, List.length_map]
  have place : ls.length - r.rest.length = taken.length := by omega
  cases rest : r.rest with
  | nil =>
      rw [rest, List.length_nil] at size
      refine .inl ⟨rfl, ?_⟩
      rw [Refusal.offset, place, List.getElem?_eq_none (by omega)]
  | cons t behind =>
      have token : (ls.map (·.token))[taken.length]? = some t := by
        rw [← tokensOf, split, rest, List.getElem?_append_right (Nat.le_refl _), Nat.sub_self]
        rfl
      rw [List.getElem?_map, Option.map_eq_some_iff] at token
      obtain ⟨l, found, rfl⟩ := token
      refine .inr ⟨l, behind, found, rfl, ?_⟩
      rw [Refusal.offset, place, found]

theorem ofText_error {text : String} {e : ActionError} (h : Program.ofText text = .error e) :
    tokenize text.toList = .error e ∨
      ∃ ls r, tokenize text.toList = .ok ls ∧ readProgram (tokensOf ls) = .error r ∧
        e = .malformed (r.offset text.utf8ByteSize ls) r.fault := by
  rw [Program.ofText, Text.byteLength_toList] at h
  cases lexed : tokenize text.toList with
  | error e' =>
      rw [lexed] at h
      cases h
      exact .inl rfl
  | ok ls =>
      simp only [lexed] at h
      split at h
      · next r read =>
          cases h
          exact .inr ⟨ls, r, rfl, read, rfl⟩
      · cases h

/-- The place is the start of the first token that cannot stand there, or the end of the text:
what is in front of it begins a program, and with it none does. -/
def PointsAtFirstImpossible (text : String) (ls : List Lexeme) (offset : Nat) : Prop :=
  ∃ k, (∃ more, IsProgram (tokensOf (ls.take k) ++ more)) ∧
    ((k = ls.length ∧ offset = text.utf8ByteSize) ∨
      ∃ l, ls[k]? = some l ∧ offset = l.offset ∧ l.StandsIn text.toList ∧
        ∀ more, ¬IsProgram (tokensOf (ls.take (k + 1)) ++ more))

theorem FirstImpossible.pointsAt {text : String} {ls : List Lexeme} {r : Refusal}
    (lexed : tokenize text.toList = .ok ls) (h : FirstImpossible (tokensOf ls) r) :
    PointsAtFirstImpossible text ls (r.offset text.utf8ByteSize ls) := by
  obtain ⟨taken, split, viable, refused⟩ := h
  have front : tokensOf (ls.take taken.length) = taken := by
    rw [tokensOf, List.map_take, ← tokensOf, split, List.take_left]
  refine ⟨taken.length, by rw [front]; exact viable, ?_⟩
  rcases offset_cases split text.utf8ByteSize with ⟨none, atEnd⟩ | ⟨l, behind, found, rest, here⟩
  · refine .inl ⟨?_, atEnd⟩
    rw [none, List.append_nil] at split
    rw [← split, tokensOf, List.length_map]
  · have stands := standsIn_of_lexemes [] rfl lexed l (List.mem_of_getElem? found)
    refine .inr ⟨l, found, here, stands, ?_⟩
    rintro more ⟨p, read⟩
    have goesOn : tokensOf (ls.take (taken.length + 1)) = taken ++ [l.token] := by
      rw [tokensOf, List.take_add_one, found, List.map_append, ← tokensOf, front]
      rfl
    rw [goesOn, List.append_assoc, refused _ (by rw [rest]; rfl)] at read
    cases read

theorem PointsAtFirstImpossible.isValid {text : String} {ls : List Lexeme} {offset : Nat}
    (h : PointsAtFirstImpossible text ls offset) : String.Pos.Raw.IsValid text ⟨offset⟩ := by
  obtain ⟨k, _, ⟨_, atEnd⟩ | ⟨l, _, here, stands, _⟩⟩ := h
  · rw [atEnd, ← Text.byteLength_toList]
    exact isValid_of_append (List.append_nil text.toList).symm
  · rw [here]
    exact stands.isValid

/-- Code is refused only as malformed, at a place between two characters of it. Where its tokens
can be told, that is the start of the first one that cannot stand there, or the end. -/
theorem prepare_first_impossible {text : String} {e : ActionError}
    (h : expressions.prepare text = .error e) :
    ∃ offset fault, e = .malformed offset fault ∧ offset ≤ text.utf8ByteSize ∧
      String.Pos.Raw.IsValid text ⟨offset⟩ ∧
      ∀ ls, tokenize text.toList = .ok ls → PointsAtFirstImpossible text ls offset := by
  rcases ofText_error h with failed | ⟨ls, r, lexed, refused, rfl⟩
  · obtain ⟨front, behind, fault, same, rfl⟩ := boundary_of_lexemes [] rfl failed
    have valid := isValid_of_append same
    refine ⟨_, fault, rfl, valid.le_utf8ByteSize, valid, fun ls lexed => ?_⟩
    rw [failed] at lexed
    cases lexed
  · have points := (firstImpossible_of_error refused).pointsAt lexed
    refine ⟨_, r.fault, rfl, points.isValid.le_utf8ByteSize, points.isValid, fun ls' lexed' => ?_⟩
    cases lexed.symm.trans lexed'
    exact points

/-- An operand is missing in parentheses behind an assignment. -/
def missingOperand : String :=
  "x = ('é' + )"

theorem prepare_first_impossible_missingOperand :
    expressions.prepare missingOperand = .error (.malformed 12 .expectedExpression) ∧
      String.Pos.Raw.IsValid missingOperand ⟨12⟩ ∧
      ∃ ls, tokenize missingOperand.toList = .ok ls ∧ ls[5]? = some ⟨.mark .closeParen, 12⟩ ∧
        PointsAtFirstImpossible missingOperand ls 12 := by
  have chars : missingOperand.toList =
      ['x', ' ', '=', ' ', '(', '\'', 'é', '\'', ' ', '+', ' ', ')'] := by decide
  have lexed : tokenize missingOperand.toList = .ok [⟨.name "x", 0⟩, ⟨.mark .assign, 2⟩,
      ⟨.mark .openParen, 4⟩, ⟨.str "é", 5⟩, ⟨.mark .plus, 10⟩, ⟨.mark .closeParen, 12⟩] := by
    rw [chars]
    exact lexemes_token rfl (lexemes_skip rfl (lexemes_token rfl (lexemes_skip rfl
      (lexemes_token rfl (lexemes_token rfl (lexemes_skip rfl (lexemes_token rfl
        (lexemes_skip rfl (lexemes_token rfl lexemes_nil)))))))))
  have read : readProgram [.name "x", .mark .assign, .mark .openParen, .str "é", .mark .plus,
      .mark .closeParen] = .error ⟨.expectedExpression, [.mark .closeParen]⟩ := by
    simp [readProgram, readStatement, readExpr, readBinary, readTail, readUnary, readPrimary,
      following?, joining?, Mark.joins?]
  have refused : expressions.prepare missingOperand =
      .error (.malformed 12 .expectedExpression) := by
    simp only [expressions, Program.ofText, lexed, List.map_cons, List.map_nil, read]
    rfl
  obtain ⟨offset, fault, same, -, valid, points⟩ := prepare_first_impossible refused
  cases same
  exact ⟨refused, valid, _, lexed, rfl, points _ lexed⟩

end Texts

end PredictiveParsing.Action
