import PredictiveParsing.Proofs.Action.Scanning

/-!
What a token is scanned from. A token depends on the characters that it is made of and on the one
behind them, which it sees only to tell that it ends there; in front of the same character and in
front of a bracket or a semicolon it is the same token. So texts without comments can be put one
behind the other, and their tokens with them.
-/
namespace PredictiveParsing.Action

/-- A comment begins at a place where a token could. -/
inductive HasComment : List Char → Prop where
  | here (cs : List Char) : HasComment ('#' :: cs)
  | later {c : Char} {cs rest : List Char} {token : Option Token}
      (scanned : scan c cs = .ok (token, rest)) (behind : HasComment rest) : HasComment (c :: cs)

/-- The tokens of a text in which nothing but spaces is skipped. -/
inductive Scans : List Char → List Token → Prop where
  | nil : Scans [] []
  | space {c : Char} {cs : List Char} {ts : List Token} (blank : isSpace c = true)
      (more : Scans cs ts) : Scans (c :: cs) ts
  | token {c : Char} {cs rest : List Char} {t : Token} {ts : List Token}
      (scanned : scan c cs = .ok (some t, rest)) (more : Scans rest ts) : Scans (c :: cs) (t :: ts)

section Skipping

variable {c : Char} {cs rest : List Char} {ts : List Token}

theorem scan_space (blank : isSpace c = true) (cs : List Char) : scan c cs = .ok (none, cs) := by
  rw [scan, if_pos blank]

theorem number_of_scanNumber {token : Option Token} (h : scanNumber cs = .ok (token, rest)) :
    (∃ n, token = some (.int n)) ∨ ∃ x, token = some (.float x) := by
  simp only [scanNumber] at h
  split at h
  · split at h
    · split at h
      · cases h
        exact .inr ⟨_, rfl⟩
      · cases h
    · split at h
      · cases h
        exact .inl ⟨_, rfl⟩
      · cases h
  · split at h
    · cases h
      exact .inl ⟨_, rfl⟩
    · cases h

/-- What is skipped is a space or a comment. -/
theorem skipped_of_scan (h : scan c cs = .ok (none, rest)) :
    (isSpace c = true ∧ rest = cs) ∨ c = '#' := by
  unfold scan at h
  split at h
  · next blank =>
      cases h
      exact .inl ⟨blank, rfl⟩
  split at h
  · next comment => exact .inr comment
  split at h
  · rcases number_of_scanNumber h with ⟨_, number⟩ | ⟨_, number⟩ <;> cases number
  split at h
  · cases h
  split at h
  · dsimp only at h
    split at h <;> cases h
  split at h
  · split at h <;> cases h
  split at h
  · cases h
  · split at h <;> cases h

theorem not_isSpace_of_scan {t : Token} (h : scan c cs = .ok (some t, rest)) :
    isSpace c = false ∧ c ≠ '#' := by
  constructor
  · rw [Bool.eq_false_iff]
    intro blank
    rw [scan_space blank] at h
    cases h
  · rintro rfl
    cases h

theorem Scans.lexes (h : Scans cs ts) : Lexes cs ts := by
  induction h with
  | nil => exact lexes_nil
  | space blank _ ih =>
      intro total
      obtain ⟨ls, read, same⟩ := ih total
      exact ⟨ls, lexemes_skip (scan_space blank _) read, same⟩
  | token scanned _ ih => exact ih.token scanned

theorem Scans.not_hasComment (h : Scans cs ts) : ¬HasComment cs := by
  induction h with
  | nil =>
      intro comment
      cases comment
  | space blank _ ih =>
      intro comment
      cases comment with
      | here _ => cases blank
      | later scanned behind =>
          cases (scan_space blank _).symm.trans scanned
          exact ih behind
  | token scanned _ ih =>
      intro comment
      cases comment with
      | here _ => cases scanned
      | later scanned' behind =>
          cases scanned.symm.trans scanned'
          exact ih behind

theorem scans_of_lexemes {total : Nat} {ls : List Lexeme} (read : lexemes total cs = .ok ls)
    (uncommented : ¬HasComment cs) : Scans cs (ls.map (·.token)) := by
  fun_induction lexemes total cs generalizing ls with
  | case1 =>
      cases read
      exact .nil
  | case2 | case3 => cases read
  | case4 c cs rest more later t scanned _ ih =>
      cases read
      exact .token scanned (ih later fun comment => uncommented (.later scanned comment))
  | case5 c cs rest more later scanned _ ih =>
      cases read
      have behind := ih later fun comment => uncommented (.later scanned comment)
      rcases skipped_of_scan scanned with ⟨blank, rfl⟩ | rfl
      · exact .space blank behind
      · exact absurd (.here cs) uncommented

/-- The tokens of a text without comments. -/
theorem scans_iff : Scans cs ts ↔ Lexes cs ts ∧ ¬HasComment cs := by
  constructor
  · intro h
    exact ⟨h.lexes, h.not_hasComment⟩
  · rintro ⟨lexed, uncommented⟩
    obtain ⟨ls, read, rfl⟩ := lexed 0
    exact scans_of_lexemes read uncommented

end Skipping

section Local

/-- A bracket or a semicolon. -/
def Delimits (d : Char) : Prop :=
  d = '(' ∨ d = ')' ∨ d = ';'

/-- A text that a token in front of another one can be put in front of: it begins with the same
character, or with one that no token goes on with. -/
def Follows (rest rest' : List Char) : Prop :=
  ∀ d ∈ rest'.head?, (rest.head? = some d ∧ d ≠ '.') ∨ Delimits d

variable {c d quote : Char} {cs taken rest rest' : List Char}

theorem Delimits.isNameChar (h : Delimits d) : isNameChar d = false := by
  rcases h with rfl | rfl | rfl <;> rfl

theorem Delimits.isDigit (h : Delimits d) : Numeral.isDigit d = false := by
  rcases h with rfl | rfl | rfl <;> rfl

theorem Delimits.ne_dot (h : Delimits d) : d ≠ '.' := by
  rcases h with rfl | rfl | rfl <;> decide

theorem Delimits.doubleMark? (h : Delimits d) (c : Char) : doubleMark? c (some d) = none := by
  rcases h with rfl | rfl | rfl <;> simp [Action.doubleMark?]

/-- The characters up to where a property ends, in front of another text. -/
theorem dropWhile_congr {p : Char → Bool} (h : (taken ++ rest).dropWhile p = rest)
    (stops : ∀ d ∈ rest'.head?, rest.head? = some d ∨ p d = false) :
    (taken ++ rest).takeWhile p = taken ∧ (taken ++ rest').takeWhile p = taken ∧
      (taken ++ rest').dropWhile p = rest' := by
  have whole : (taken ++ rest).takeWhile p = taken := by
    have split := List.takeWhile_append_dropWhile (p := p) (l := taken ++ rest)
    rw [h] at split
    exact List.append_cancel_right split
  have all : ∀ c ∈ taken, p c = true := by
    rw [← whole]
    exact List.all_eq_true.mp List.all_takeWhile
  refine ⟨whole, ?_⟩
  rw [List.takeWhile_append_of_pos all, List.dropWhile_append_of_pos all]
  cases rest' with
  | nil => simp
  | cons d rest' =>
      have stop : p d = false := by
        rcases stops d rfl with same | stop
        · have first := List.head?_dropWhile_not p (taken ++ rest)
          rw [h, same] at first
          simpa using first
        · exact stop
      simp [stop]

theorem readString_lt {text : List Char} (h : readString quote cs = .ok (text, rest)) :
    rest.length < cs.length := by
  fun_induction readString quote cs generalizing text <;> grind

/-- A text that is longer than what is left begins with what is taken. -/
theorem exists_taken (split : taken ++ rest = c :: cs) (lt : rest.length < (c :: cs).length) :
    ∃ more, taken = c :: more ∧ more ++ rest = cs := by
  cases taken with
  | nil =>
      rw [List.nil_append] at split
      rw [split] at lt
      exact absurd lt (Nat.lt_irrefl _)
  | cons d more =>
      obtain ⟨rfl, same⟩ := List.cons.inj split
      exact ⟨more, rfl, same⟩

theorem readString_congr {text : List Char} (rest' : List Char)
    (h : readString quote (taken ++ rest) = .ok (text, rest)) :
    readString quote (taken ++ rest') = .ok (text, rest') := by
  generalize split : taken ++ rest = cs at h
  fun_induction readString quote cs generalizing taken text with
  | case1 | case3 | case4 | case6 | case8 => cases h
  | case2 cs =>
      cases h
      have whole : taken ++ rest = [quote] ++ rest := split
      obtain rfl := List.append_cancel_right whole
      rw [List.singleton_append, readString.eq_def]
      simp
  | case5 d ds line text' rest'' inner opening ih =>
      cases h
      have fewer := readString_lt inner
      obtain ⟨more, rfl, behind⟩ := exists_taken split (by simp only [List.length_cons]; omega)
      obtain ⟨more, rfl, last⟩ := exists_taken behind (by simp only [List.length_cons]; omega)
      rw [List.cons_append, List.cons_append, readString.eq_def]
      simp [opening, line, ih last inner]
  | case7 c cs opening escaped text' rest'' inner ih =>
      cases h
      have fewer := readString_lt inner
      obtain ⟨more, rfl, behind⟩ := exists_taken split (by simp only [List.length_cons]; omega)
      rw [List.cons_append, readString.eq_def]
      simp [opening, escaped, ih behind inner]

theorem Follows.stops (h : Follows rest rest') {p : Char → Bool}
    (delimiters : ∀ d, Delimits d → p d = false) :
    ∀ d ∈ rest'.head?, rest.head? = some d ∨ p d = false :=
  fun d hd => (h d hd).imp And.left (delimiters d)

theorem Follows.ne_dot (h : Follows rest rest') (cs : List Char) : rest' ≠ '.' :: cs := by
  rintro rfl
  rcases h '.' rfl with ⟨-, ne⟩ | delimits
  · exact ne rfl
  · exact delimits.ne_dot rfl

theorem Follows.doubleMark? (h : Follows rest rest') (single : doubleMark? c rest.head? = none) :
    doubleMark? c rest'.head? = none := by
  cases rest' with
  | nil => rfl
  | cons d rest' =>
      rcases h d rfl with ⟨same, -⟩ | delimits
      · rw [List.head?_cons, ← same, single]
      · exact delimits.doubleMark? c

/-- The ways in which digits are read as a number. -/
inductive ScansNumber (taken rest : List Char) : Token → Prop where
  | int {n : Int64} (behind : (taken ++ rest).dropWhile Numeral.isDigit = rest)
      (read : Numeral.readInt64? taken = some n) : ScansNumber taken rest (.int n)
  | float {x : Float} {whole fraction : List Char} {d : Char}
      (digits : ∀ c ∈ whole, Numeral.isDigit c = true) (first : Numeral.isDigit d = true)
      (split : taken = whole ++ '.' :: d :: fraction)
      (behind : (d :: fraction ++ rest).dropWhile Numeral.isDigit = rest)
      (read : Numeral.readFloat? taken = some x) : ScansNumber taken rest (.float x)

theorem scansNumber_int {n : Int64}
    (read : Numeral.readInt64? ((taken ++ rest).takeWhile Numeral.isDigit) = some n)
    (behind : (taken ++ rest).dropWhile Numeral.isDigit = rest) :
    ScansNumber taken rest (.int n) := by
  obtain ⟨whole, -⟩ := @dropWhile_congr _ _ rest _ behind fun d hd => .inl hd
  rw [whole] at read
  exact .int behind read

theorem scansNumber_float {x : Float} {more : List Char}
    (point : (taken ++ rest).dropWhile Numeral.isDigit = '.' :: d :: more)
    (first : Numeral.isDigit d = true)
    (read : Numeral.readFloat? ((taken ++ rest).takeWhile Numeral.isDigit ++
      '.' :: (d :: more).takeWhile Numeral.isDigit) = some x)
    (behind : (d :: more).dropWhile Numeral.isDigit = rest) :
    ScansNumber taken rest (.float x) := by
  have digits := List.takeWhile_cons_of_pos (l := more) first
  have fraction : d :: more.takeWhile Numeral.isDigit ++ rest = d :: more := by
    rw [← digits, ← behind, List.takeWhile_append_dropWhile]
  have whole : (taken ++ rest).takeWhile Numeral.isDigit ++
      '.' :: d :: more.takeWhile Numeral.isDigit = taken := by
    apply @List.append_cancel_right _ _ rest
    rw [List.append_assoc, List.cons_append, fraction, ← point, List.takeWhile_append_dropWhile]
  rw [digits, whole] at read
  rw [← fraction] at behind
  exact .float (List.all_eq_true.mp List.all_takeWhile) first whole.symm behind read

theorem scansNumber_of_scanNumber {token : Option Token}
    (h : scanNumber (taken ++ rest) = .ok (token, rest)) :
    ∃ t, token = some t ∧ ScansNumber taken rest t := by
  simp only [scanNumber] at h
  split at h
  · next d more point =>
      split at h
      · next first =>
          split at h
          · next x read =>
              rw [Except.ok.injEq, Prod.mk.injEq] at h
              exact ⟨_, h.1.symm, scansNumber_float point first read h.2⟩
          · cases h
      · split at h
        · next n read =>
            rw [Except.ok.injEq, Prod.mk.injEq] at h
            exact ⟨_, h.1.symm, scansNumber_int read h.2⟩
        · cases h
  · split at h
    · next n read =>
        rw [Except.ok.injEq, Prod.mk.injEq] at h
        exact ⟨_, h.1.symm, scansNumber_int read h.2⟩
    · cases h

theorem ScansNumber.scanNumber {t : Token} (follows : Follows rest rest')
    (h : ScansNumber taken rest t) : scanNumber (taken ++ rest') = .ok (some t, rest') := by
  have stops := follows.stops (p := Numeral.isDigit) fun d hd => hd.isDigit
  cases h with
  | int behind read =>
      obtain ⟨-, whole, behind⟩ := dropWhile_congr behind stops
      simp only [Action.scanNumber, whole, behind, read]
      split
      · next d more => exact absurd rfl (follows.ne_dot (d :: more))
      · rfl
  | @float x whole fraction d digits first split behind read =>
      obtain ⟨-, fraction', behind'⟩ := dropWhile_congr behind stops
      have point : ('.' :: (d :: fraction ++ rest')).takeWhile Numeral.isDigit = [] ∧
          ('.' :: (d :: fraction ++ rest')).dropWhile Numeral.isDigit =
            '.' :: (d :: fraction ++ rest') := ⟨rfl, rfl⟩
      subst split
      rw [List.append_assoc, List.cons_append, Action.scanNumber,
        List.takeWhile_append_of_pos digits, List.dropWhile_append_of_pos digits, point.1, point.2]
      rw [List.cons_append] at fraction' behind'
      simp only [List.append_nil, List.cons_append, first, if_true, fraction', behind', read]

theorem scanNumber_congr {token : Option Token} (follows : Follows rest rest')
    (h : scanNumber (taken ++ rest) = .ok (token, rest)) :
    scanNumber (taken ++ rest') = .ok (token, rest') := by
  obtain ⟨t, rfl, scans⟩ := scansNumber_of_scanNumber h
  exact scans.scanNumber follows

theorem scan_of_other (blank : isSpace c = false) (plain : c ≠ '#')
    (digit : Numeral.isDigit c = false) (start : isNameStart c = false) (child : c ≠ '$')
    (string : ¬(c = '"' ∨ c = '\'')) (cs : List Char) :
    scan c cs =
      match doubleMark? c cs.head? with
      | some m => .ok (some (.mark m), cs.tail)
      | none =>
        match singleMark? c with
        | some m => .ok (some (.mark m), cs)
        | none => .error [c] := by
  have spaced : ¬isSpace c = true := by simp [blank]
  have numeral : ¬Numeral.isDigit c = true := by simp [digit]
  have named : ¬isNameStart c = true := by simp [start]
  rw [scan, if_neg spaced, if_neg plain, if_neg numeral, if_neg named]
  exact (if_neg child).trans (if_neg string)

/-- A token that ends in front of a text is scanned as well in front of another one that
follows. -/
theorem scan_congr {token : Option Token} (follows : Follows rest rest') (plain : c ≠ '#')
    (h : scan c (taken ++ rest) = .ok (token, rest)) :
    scan c (taken ++ rest') = .ok (token, rest') := by
  by_cases blank : isSpace c = true
  · rw [scan_space blank] at h ⊢
    obtain ⟨rfl, same⟩ : none = token ∧ taken ++ rest = rest := by simpa using h
    obtain rfl := List.append_left_eq_self.mp same
    rfl
  by_cases digit : Numeral.isDigit c = true
  · rw [scan_of_isDigit digit] at h ⊢
    rw [← List.cons_append] at h ⊢
    exact scanNumber_congr follows h
  by_cases start : isNameStart c = true
  · rw [scan_of_isNameStart start, Except.ok.injEq, Prod.mk.injEq] at h
    obtain ⟨rfl, behind⟩ := h
    obtain ⟨whole, whole', behind'⟩ := dropWhile_congr behind
      (follows.stops fun d hd => hd.isNameChar)
    rw [scan_of_isNameStart start, whole, whole', behind']
  by_cases child : c = '$'
  · subst child
    rw [scan_child] at h ⊢
    split at h
    · next index read =>
        rw [Except.ok.injEq, Prod.mk.injEq] at h
        obtain ⟨rfl, behind⟩ := h
        obtain ⟨whole, whole', behind'⟩ := dropWhile_congr behind
          (follows.stops fun d hd => hd.isDigit)
        rw [whole] at read
        rw [whole', read, behind']
    · cases h
  by_cases string : c = '"' ∨ c = '\''
  · rw [scan_quote string] at h ⊢
    split at h
    · next text behind read =>
        cases h
        rw [readString_congr rest' read]
    · cases h
  have other := scan_of_other (by simpa using blank) plain (by simpa using digit)
    (by simpa using start) child string
  rw [other] at h ⊢
  split at h
  · next m double =>
      obtain ⟨rfl, behind⟩ : some (.mark m) = token ∧ (taken ++ rest).tail = rest := by
        simpa using h
      -- the second character of the mark is one of those that are taken
      cases taken with
      | nil =>
          cases rest with
          | nil => cases double
          | cons d rest => exact absurd behind.symm (List.cons_ne_self d rest)
      | cons d taken =>
          obtain rfl := List.append_left_eq_self.mp behind
          rw [List.singleton_append, List.head?_cons] at double ⊢
          rw [double]
          rfl
  · next double =>
      split at h
      · next m single =>
          obtain ⟨rfl, same⟩ : some (.mark m) = token ∧ taken ++ rest = rest := by simpa using h
          obtain rfl := List.append_left_eq_self.mp same
          rw [List.nil_append] at double ⊢
          rw [follows.doubleMark? double]
      · cases h

end Local

section Joining

variable {c : Char} {cs ds rest : List Char} {ts us : List Token}

theorem scan_openParen (cs : List Char) : scan '(' cs = .ok (some (.mark .openParen), cs) := by
  cases cs <;> rfl

theorem scan_closeParen (cs : List Char) : scan ')' cs = .ok (some (.mark .closeParen), cs) := by
  cases cs <;> rfl

theorem scan_semicolon (cs : List Char) : scan ';' cs = .ok (some (.mark .separator), cs) := by
  cases cs <;> rfl

theorem scan_dot (cs : List Char) : scan '.' cs = .error ['.'] := by
  cases cs <;> rfl

theorem not_doubleMark?_openParen (d : Option Char) : doubleMark? c d ≠ some .openParen := by
  rw [doubleMark?.eq_def]
  split
  · split <;> simp
  · simp

theorem eq_of_singleMark?_openParen (h : singleMark? c = some .openParen) : c = '(' := by
  rw [singleMark?.eq_def] at h
  split at h <;> cases h
  rfl

/-- Nothing but the opening parenthesis is scanned as one. -/
theorem eq_of_scan_openParen (h : scan c cs = .ok (some (.mark .openParen), rest)) : c = '(' := by
  unfold scan at h
  split at h
  · cases h
  split at h
  · cases h
  split at h
  · rcases number_of_scanNumber h with ⟨_, number⟩ | ⟨_, number⟩ <;> cases number
  split at h
  · cases h
  split at h
  · dsimp only at h
    split at h <;> cases h
  split at h
  · split at h <;> cases h
  split at h
  · next m double =>
      cases h
      exact absurd double (not_doubleMark?_openParen _)
  · split at h
    · next m single =>
        cases h
        exact eq_of_singleMark?_openParen single
    · cases h

theorem Scans.head?_ne_dot (h : Scans cs ts) : ∀ d ∈ cs.head?, d ≠ '.' := by
  rintro _ head rfl
  cases h with
  | nil => cases head
  | space blank _ =>
      cases head
      cases blank
  | token scanned _ =>
      cases head
      rw [scan_dot] at scanned
      cases scanned

/-- A text without comments goes on with another one that begins with a delimiter. -/
theorem Scans.append (h : Scans cs ts) (more : Scans ds us) (ends : ∀ d ∈ ds.head?, Delimits d) :
    Scans (cs ++ ds) (ts ++ us) := by
  induction h with
  | nil => exact more
  | space blank _ ih => exact .space blank ih
  | @token c cs rest t ts scanned later ih =>
      have follows : Follows rest (rest ++ ds) := by
        intro d head
        cases rest with
        | nil => exact .inr (ends d head)
        | cons e rest => exact .inl ⟨head, later.head?_ne_dot d head⟩
      obtain ⟨taken, rfl⟩ := scan_suffix scanned
      rw [List.cons_append, List.append_assoc, List.cons_append]
      exact .token (scan_congr follows (not_isSpace_of_scan scanned).2 scanned) ih

end Joining

end PredictiveParsing.Action
