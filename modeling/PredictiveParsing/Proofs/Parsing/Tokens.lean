import PredictiveParsing.Parsing.Run

/-!
Tokens partition the input: where every position has a token, the texts of the tokens
are the input, cut up and nothing left out, and a token starts behind the bytes of the
texts in front of it.
-/
namespace PredictiveParsing.Parsing

theorem texts_of_scan (text : List Char) (position offset : Nat) (rules : List Upcoming)
    (rest : List Char) (h : (scan text position offset rules rest).failure = none) :
    (scan text position offset rules rest).tokens.flatMap (·.text.toList) = rest := by
  fun_induction scan text position offset rules rest with
  | case1 position offset rules => rfl
  | case2 position offset rules c rest us chosen => cases h
  | case3 position offset rules c rest us name stop chosen piece more ih =>
      rw [List.flatMap_cons, String.toList_ofList, ih h]
      exact List.take_append_drop (stop - position) (c :: rest)

/-- The byte offsets of tokens are what the texts in front of them take. -/
theorem offsets_of_scan (text : List Char) (position offset : Nat) (rules : List Upcoming)
    (rest : List Char) :
    ∀ i t, (scan text position offset rules rest).tokens[i]? = some t →
      t.offset = offset + Text.byteLength
        (((scan text position offset rules rest).tokens.take i).flatMap (·.text.toList)) := by
  fun_induction scan text position offset rules rest with
  | case1 position offset rules =>
      intro i t h
      simp at h
  | case2 position offset rules c rest us chosen =>
      intro i t h
      simp at h
  | case3 position offset rules c rest us name stop chosen piece more ih =>
      intro i t h
      cases i with
      | zero =>
          cases h
          simp [Text.byteLength]
      | succ i =>
          rw [ih i t h, List.take_succ_cons, List.flatMap_cons, Text.byteLength_append,
            String.toList_ofList, Nat.add_assoc]

theorem tokenize_ok {rules : List TokenRule} {input : String} {stream : Stream}
    (h : tokenize rules input = .ok stream) :
    scanAll rules input.toList = ⟨stream.tokens.toList, none⟩ ∧
      stream.length = Text.byteLength input.toList := by
  unfold tokenize at h
  dsimp only at h
  split at h
  · next tokens hs =>
      cases h
      exact ⟨hs, rfl⟩
  · cases h

theorem texts_of_tokenize {rules : List TokenRule} {input : String} {stream : Stream}
    (h : tokenize rules input = .ok stream) :
    stream.tokens.toList.flatMap (·.text.toList) = input.toList := by
  have scanned := (tokenize_ok h).1
  have texts := texts_of_scan input.toList 0 0 (rules.map (Upcoming.ofRule input.toList))
    input.toList
  rw [← scanAll, scanned] at texts
  exact texts rfl

theorem join_texts_of_tokenize {rules : List TokenRule} {input : String} {stream : Stream}
    (h : tokenize rules input = .ok stream) :
    String.join (stream.tokens.toList.map (·.text)) = input := by
  rw [← String.toList_inj, String.toList_join, ← texts_of_tokenize h]
  simp [List.flatMap_map]

/-- The byte offset of the token at a position; the end of the input is behind all bytes. -/
def Stream.offsetAt (stream : Stream) (position : Nat) : Nat :=
  match stream.tokens[position]? with
  | some t => t.offset
  | none => stream.length

theorem Compiled.unexpected_eq {α : Type} (stream : Stream) (depth : Nat) (symbol : String)
    (expected : Expectation) (r : Run) :
    (unexpected stream depth symbol expected r : Outcome α) =
      (.error (.unexpected r.cursor (stream.offsetAt r.cursor) (r.lookahead stream) expected),
        r.record stream depth symbol (.unexpected expected)) :=
  rfl

theorem offsetAt_of_tokenize {rules : List TokenRule} {input : String} {stream : Stream}
    (h : tokenize rules input = .ok stream) (position : Nat) :
    stream.offsetAt position =
      Text.byteLength ((stream.tokens.toList.take position).flatMap (·.text.toList)) := by
  obtain ⟨scanned, length⟩ := tokenize_ok h
  rw [Stream.offsetAt]
  cases ht : stream.tokens[position]? with
  | some t =>
      have offsets := offsets_of_scan input.toList 0 0 (rules.map (Upcoming.ofRule input.toList))
        input.toList position t
      rw [← scanAll, scanned, Nat.zero_add, Array.getElem?_toList] at offsets
      exact offsets ht
  | none =>
      have behind : stream.tokens.toList.length ≤ position := by
        simpa using ht
      rw [List.take_of_length_le behind, texts_of_tokenize h]
      exact length

theorem tokenize_error {rules : List TokenRule} {input : String} {e : ParseError}
    (h : tokenize rules input = .error e) : ∃ offset found, e = .noToken offset found := by
  unfold tokenize at h
  dsimp only at h
  split at h
  · cases h
  · cases h
    exact ⟨_, _, rfl⟩

/-- A parse fails where no token matches, or else on the tokens of the input. -/
theorem Compiled.parse_eq_error {V P : Type} {c : Compiled V P} {input : String} {e : ParseError}
    (h : c.parse input = .error e) :
    (∃ offset found, e = .noToken offset found) ∨
      ∃ stream, c.tokenize input = .ok stream ∧ (c.parseStream stream).1 = .error e := by
  rw [parse] at h
  cases ht : c.tokenize input with
  | error e' =>
      rw [ht] at h
      cases h
      exact .inl (tokenize_error ht)
  | ok stream =>
      rw [ht] at h
      exact .inr ⟨stream, rfl, h⟩

end PredictiveParsing.Parsing
