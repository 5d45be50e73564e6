import PredictiveParsing.Proofs.Action.Printing

/-!
Scanning what was written. In front of a blank, a separator or the end of the text each
spelling of a token is scanned as that token: a number as its value, and a string as what was
escaped between its quotes.
-/
namespace PredictiveParsing.Action

section Numbers

open Numeral

theorem digit?_of_isDigit {c : Char} (h : c.isDigit = true) :
    digit? c = some (c.toNat - '0'.toNat) := by
  have bounds : '0' ≤ c ∧ c ≤ '9' := by simpa [Char.isDigit, Char.le_def] using h
  rw [digit?, if_pos bounds]

theorem positional?_of_isDigit {cs : List Char} (h : ∀ c ∈ cs, c.isDigit = true) (acc : Nat) :
    positional? digit? 10 acc cs = some (Nat.ofDigitChars 10 cs acc) := by
  induction cs generalizing acc with
  | nil => rw [positional?, Nat.ofDigitChars_nil]
  | cons c cs ih =>
      obtain ⟨first, more⟩ := List.forall_mem_cons.mp h
      simp only [positional?, digit?_of_isDigit first, ih more, Nat.ofDigitChars_cons]

theorem isDigit_of_mem_toDigits {n : Nat} {c : Char} (h : c ∈ Nat.toDigits 10 n) :
    Numeral.isDigit c = true := by
  rw [isDigit, digit?_of_isDigit (Nat.isDigit_of_mem_toDigits (by decide) (by decide) h)]
  rfl

theorem natural?_toDigits (n : Nat) : natural? (Nat.toDigits 10 n) = some n := by
  have some : (Nat.toDigits 10 n).isEmpty = false := by simp
  rw [natural?, some, positional?_of_isDigit fun c hc => Nat.isDigit_of_mem_toDigits (by decide)
    (by decide) hc, Nat.ofDigitChars_ten_toDigits]
  rfl

theorem integerText_natural (n : Nat) :
    (integerText n).toList = Nat.toDigits 10 n := by
  have natural : ¬(n : Int) < 0 := by omega
  simp [integerText, natural]

theorem readWord?_toDigits {n : Nat} (h : n < 0x10000000000000000) : readWord? (Nat.toDigits 10 n) = some n := by
  rw [readWord?, natural?_toDigits, Option.bind_some, if_pos h]

theorem signed_of_isDigit {cs : List Char} (h : ∀ c ∈ cs, c.isDigit = true) :
    signed cs = (false, cs) := by
  cases cs with
  | nil => rfl
  | cons c cs =>
      have digit := h c List.mem_cons_self
      rw [signed, if_neg, if_neg]
      · rintro rfl
        exact absurd digit (by decide)
      · rintro rfl
        exact absurd digit (by decide)

theorem readInt64?_toDigits {n : Int64} {k : Nat} (h : n.toInt = k) :
    readInt64? (Nat.toDigits 10 k) = some n := by
  have digits : ∀ c ∈ Nat.toDigits 10 k, c.isDigit = true :=
    fun c hc => Nat.isDigit_of_mem_toDigits (by decide) (by decide) hc
  have bound := n.toInt_lt
  have fits : -0x8000000000000000 ≤ (k : Int) ∧ (k : Int) < 0x8000000000000000 := by omega
  have number : integer? (Nat.toDigits 10 k) = some (k : Int) := by
    simp only [integer?, signed_of_isDigit digits, natural?_toDigits]
    rfl
  rw [readInt64?, number, Option.bind_some, int64?, if_pos fits, ← h, Int64.ofInt_toInt]

end Numbers

section Text

/-- Behind a token is a space, a separator or the end of the text. -/
def Breaks : List Char → Prop
  | [] => True
  | c :: _ => c = ' ' ∨ c = ';' ∨ c = '\n'

variable {c quote : Char} {cs rest : List Char}

theorem Breaks.span {p : Char → Bool} (h : Breaks rest) (all : ∀ c ∈ cs, p c = true)
    (space : p ' ' = false) (semicolon : p ';' = false) (lineFeed : p '\n' = false) :
    (cs ++ rest).takeWhile p = cs ∧ (cs ++ rest).dropWhile p = rest := by
  rw [List.takeWhile_append_of_pos all, List.dropWhile_append_of_pos all]
  cases rest with
  | nil => simp
  | cons c rest => rcases h with rfl | rfl | rfl <;> simp [space, semicolon, lineFeed]

theorem Breaks.digits (h : Breaks rest) (n : Nat) :
    (Nat.toDigits 10 n ++ rest).takeWhile Numeral.isDigit = Nat.toDigits 10 n ∧
      (Nat.toDigits 10 n ++ rest).dropWhile Numeral.isDigit = rest :=
  h.span (fun _ => isDigit_of_mem_toDigits) rfl rfl rfl

theorem scanNumber_toDigits {n : Int64} {k : Nat} (h : n.toInt = k) (breaks : Breaks rest) :
    scanNumber (Nat.toDigits 10 k ++ rest) = .ok (some (.int n), rest) := by
  obtain ⟨whole, behind⟩ := breaks.digits k
  simp only [scanNumber, whole, behind, readInt64?_toDigits h]
  cases rest with
  | nil => rfl
  | cons c rest => rcases breaks with rfl | rfl | rfl <;> rfl

theorem not_skipped_of_isDigit (h : Numeral.isDigit c = true) : isSpace c = false ∧ c ≠ '#' := by
  constructor
  · rw [Bool.eq_false_iff]
    intro space
    simp only [isSpace, Bool.or_eq_true, decide_eq_true_eq] at space
    rcases space with ((rfl | rfl) | rfl) | rfl <;> exact absurd h (by decide)
  · rintro rfl
    exact absurd h (by decide)

theorem scan_of_isDigit (h : Numeral.isDigit c = true) (cs : List Char) :
    scan c cs = scanNumber (c :: cs) := by
  obtain ⟨unspaced, uncommented⟩ := not_skipped_of_isDigit h
  simp [scan, unspaced, uncommented, h]

theorem not_skipped_of_isNameStart (h : isNameStart c = true) :
    isSpace c = false ∧ c ≠ '#' ∧ Numeral.isDigit c = false := by
  refine ⟨?_, ?_, ?_⟩
  · rw [Bool.eq_false_iff]
    intro space
    simp only [isSpace, Bool.or_eq_true, decide_eq_true_eq] at space
    rcases space with ((rfl | rfl) | rfl) | rfl <;> exact absurd h (by decide)
  · rintro rfl
    exact absurd h (by decide)
  · rw [Bool.eq_false_iff]
    intro digit
    have bounds : 48 ≤ c.val.toNat ∧ c.val.toNat ≤ 57 := by
      simpa [Numeral.isDigit, Numeral.digit?, Char.le_def, UInt32.le_iff_toNat_le] using digit
    simp only [isNameStart, Bool.or_eq_true, Bool.and_eq_true, decide_eq_true_eq, Char.le_def,
      UInt32.le_iff_toNat_le] at h
    rcases h with (lower | upper) | rfl
    · have least : 97 ≤ c.val.toNat := lower.1
      omega
    · have least : 65 ≤ c.val.toNat := upper.1
      omega
    · exact absurd bounds.2 (by decide)

theorem scan_of_isNameStart (h : isNameStart c = true) (cs : List Char) :
    scan c cs = .ok (some (.name (String.ofList (c :: cs.takeWhile isNameChar))),
      cs.dropWhile isNameChar) := by
  obtain ⟨unspaced, uncommented, nonDigit⟩ := not_skipped_of_isNameStart h
  simp [scan, unspaced, uncommented, nonDigit, h]

theorem readString_escape (h : quote = '"' ∨ quote = '\'') (cs rest : List Char) :
    readString quote (cs.flatMap (escape quote) ++ quote :: rest) = .ok (cs, rest) := by
  have opening : '\\' ≠ quote := by rcases h with rfl | rfl <;> decide
  induction cs with
  | nil => simp [readString.eq_def]
  | cons c cs ih =>
      rw [List.flatMap_cons, List.append_assoc]
      by_cases escaped : c = '\\' ∨ c = quote
      · have plain : c ≠ '\n' ∧ unescape c = c := by
          rcases escaped with rfl | rfl
          · decide
          · rcases h with rfl | rfl <;> decide
        rw [readString.eq_def]
        simp [escape, escaped, opening, plain, ih]
      · rw [not_or] at escaped
        rw [readString.eq_def]
        simp [escape, escaped, ih]

theorem scan_quote (h : quote = '"' ∨ quote = '\'') (cs : List Char) :
    scan quote cs =
      match readString quote cs with
      | .ok (text, rest) => .ok (some (.str (String.ofList text)), rest)
      | .error read => .error (quote :: read) := by
  rcases h with rfl | rfl <;> rfl

theorem scan_child (cs : List Char) :
    scan '$' cs =
      match Numeral.readWord? (cs.takeWhile Numeral.isDigit) with
      | some index => .ok (some (.child index), cs.dropWhile Numeral.isDigit)
      | none => .error ('$' :: cs.takeWhile Numeral.isDigit) :=
  rfl

theorem scan_mark (m : Mark) (breaks : Breaks rest) :
    ∃ c cs, m.text.toList = c :: cs ∧ scan c (cs ++ rest) = .ok (some (.mark m), rest) := by
  -- a mark may begin a longer one, but none of these goes on with what stands behind a token
  cases rest with
  | nil => cases m <;> exact ⟨_, _, rfl, rfl⟩
  | cons c rest => rcases breaks with rfl | rfl | rfl <;> cases m <;> exact ⟨_, _, rfl, rfl⟩

/-- A token whose spellings are scanned as it. -/
def Token.Scannable : Token → Prop
  | .int n => 0 ≤ n.toInt
  | .name s => isIdentifier s.toList = true
  | .child index => index < 0x10000000000000000
  | .str _ | .mark _ => True
  | .float _ => False

theorem scan_inQuotes (h : quote = '"' ∨ quote = '\'') (s : String) (rest : List Char) :
    ∃ c cs, inQuotes quote s = c :: cs ∧ scan c (cs ++ rest) = .ok (some (.str s), rest) := by
  refine ⟨quote, s.toList.flatMap (escape quote) ++ [quote], rfl, ?_⟩
  rw [scan_quote h, List.append_assoc, List.singleton_append, readString_escape h]
  simp

/-- Each spelling of a token is scanned as the token. -/
theorem scan_spelling {t : Token} {piece : List Char} (spelled : piece ∈ t.spellings)
    (scannable : t.Scannable) (breaks : Breaks rest) :
    ∃ c cs, piece = c :: cs ∧ scan c (cs ++ rest) = .ok (some t, rest) := by
  cases t with
  | int n =>
      obtain ⟨k, hk⟩ := Int.eq_ofNat_of_zero_le scannable
      obtain rfl := List.mem_singleton.mp spelled
      rw [hk, integerText_natural]
      have scanned := scanNumber_toDigits hk breaks
      have digit : ∀ c ∈ Nat.toDigits 10 k, Numeral.isDigit c = true :=
        fun c hc => isDigit_of_mem_toDigits hc
      cases hd : Nat.toDigits 10 k with
      | nil => exact absurd hd Nat.toDigits_ne_nil
      | cons c cs =>
          rw [hd] at scanned digit
          exact ⟨c, cs, rfl, (scan_of_isDigit (digit c List.mem_cons_self) _).trans scanned⟩
  | float x => cases spelled
  | str s =>
      rw [Token.spellings, List.mem_cons, List.mem_singleton] at spelled
      rcases spelled with rfl | rfl
      · exact scan_inQuotes (.inl rfl) s rest
      · exact scan_inQuotes (.inr rfl) s rest
  | name s =>
      obtain rfl := List.mem_singleton.mp spelled
      rw [Token.Scannable] at scannable
      cases hs : s.toList with
      | nil =>
          rw [hs] at scannable
          cases scannable
      | cons c cs =>
          rw [hs, isIdentifier, Bool.and_eq_true, List.all_eq_true] at scannable
          obtain ⟨whole, behind⟩ := breaks.span scannable.2 rfl rfl rfl
          refine ⟨c, cs, rfl, ?_⟩
          rw [scan_of_isNameStart scannable.1, whole, behind, ← hs, String.ofList_toList]
  | child index =>
      obtain rfl := List.mem_singleton.mp spelled
      obtain ⟨whole, behind⟩ := breaks.digits index
      refine ⟨'$', _, rfl, ?_⟩
      rw [scan_child, integerText_natural, whole, behind, readWord?_toDigits scannable]
  | mark m =>
      obtain rfl := List.mem_singleton.mp spelled
      exact scan_mark m breaks

end Text

section Lexemes

variable {c : Char} {cs rest : List Char} {ts us : List Token} {ls : List Lexeme} {total : Nat}

theorem lexemes_nil : lexemes total [] = .ok [] := by
  rw [lexemes]

theorem lexemes_token {t : Token} (scanned : scan c cs = .ok (some t, rest))
    (later : lexemes total rest = .ok ls) :
    lexemes total (c :: cs) = .ok (⟨t, total - Text.byteLength (c :: cs)⟩ :: ls) := by
  rw [lexemes]
  split
  · next failed => cases failed.symm.trans scanned
  · next found =>
      cases found.symm.trans scanned
      simp only [later]

theorem lexemes_skip (scanned : scan c cs = .ok (none, rest))
    (later : lexemes total rest = .ok ls) : lexemes total (c :: cs) = .ok ls := by
  rw [lexemes]
  split
  · next failed => cases failed.symm.trans scanned
  · next found =>
      cases found.symm.trans scanned
      simp only [later]

/-- The characters are read as the tokens, wherever they stand in a text. -/
def Lexes (cs : List Char) (ts : List Token) : Prop :=
  ∀ total, ∃ ls, lexemes total cs = .ok ls ∧ ls.map (·.token) = ts

theorem lexes_nil : Lexes [] [] :=
  fun _ => ⟨[], lexemes_nil, rfl⟩

theorem Lexes.token {t : Token} (h : Lexes rest ts) (scanned : scan c cs = .ok (some t, rest)) :
    Lexes (c :: cs) (t :: ts) := by
  intro total
  obtain ⟨ls, read, same⟩ := h total
  exact ⟨_, lexemes_token scanned read, by rw [List.map_cons, same]⟩

theorem Lexes.space (h : Lexes cs ts) : Lexes (' ' :: cs) ts := by
  intro total
  obtain ⟨ls, read, same⟩ := h total
  exact ⟨ls, lexemes_skip rfl read, same⟩

theorem Lexes.spaces (h : Lexes cs ts) (n : Nat) : Lexes (List.replicate n ' ' ++ cs) ts := by
  induction n with
  | zero => exact h
  | succ n ih => exact ih.space

theorem Lexes.separator (h : Lexes cs ts) (separates : c = ';' ∨ c = '\n') :
    Lexes (c :: cs) (.mark .separator :: ts) := by
  refine h.token ?_
  cases cs with
  | nil => rcases separates with rfl | rfl <;> rfl
  | cons d cs => rcases separates with rfl | rfl <;> rfl

theorem Lexes.spelling {t : Token} {piece : List Char} (h : Lexes rest ts)
    (spelled : piece ∈ t.spellings) (scannable : t.Scannable) (breaks : Breaks rest) :
    Lexes (piece ++ rest) (t :: ts) := by
  obtain ⟨c, cs, rfl, scanned⟩ := scan_spelling spelled scannable breaks
  exact h.token scanned

/-- Tokens with single spaces between them are read one by one. -/
theorem Lexes.spelled {pieces : List (List Char)}
    (spelled : List.Forall₂ (fun t piece => piece ∈ t.spellings) ts pieces)
    (scannable : ∀ t ∈ ts, t.Scannable) (h : Lexes rest us) (breaks : Breaks rest) :
    Lexes ([' '].intercalate pieces ++ rest) (ts ++ us) := by
  induction spelled with
  | nil => exact h
  | @cons t piece ts pieces first more ih =>
      obtain ⟨here, later⟩ := List.forall_mem_cons.mp scannable
      have behind := ih later
      cases more with
      | nil =>
          rw [List.intercalate_singleton]
          exact h.spelling first here breaks
      | cons _ _ =>
          rw [List.intercalate_cons_cons, List.append_assoc, List.append_assoc]
          exact behind.space.spelling first here (.inl rfl)

end Lexemes

end PredictiveParsing.Action
