import PredictiveParsing.Proofs.Parsing.Tokens
import PredictiveParsing.Proofs.Parsing.Upcoming

/-!
Tokenizing partitions the input. The tokens are pieces of the input, one behind the other and
none of them empty, up to its end or up to the first place where no pattern has more than an
empty match. A round of the loop takes a piece or is the last one, so that there are at most as
many rounds that take a piece as there are characters.
-/
namespace PredictiveParsing.Parsing

open Grammar (Terminal)
open Text (byteLength)

/-- The characters that the tokens were made of. -/
def texts (tokens : List Token) : List Char :=
  tokens.flatMap (·.text.toList)

/-- The text is cut up into the tokens: none of them is empty, each has one of the names, and
each starts behind the bytes of those in front of it. -/
structure IsPartition (names : List String) (text : List Char) (tokens : List Token) : Prop where
  texts_eq : texts tokens = text
  declared : ∀ t ∈ tokens, t.name ∈ names
  text_ne : ∀ t ∈ tokens, t.text ≠ ""
  offset_eq : ∀ i t, tokens[i]? = some t → t.offset = byteLength (texts (tokens.take i))

/-- The kind, the text and the offset of a token. -/
def Token.entry (t : Token) : Terminal × String × Nat :=
  (.token t.name, t.text, t.offset)

/-- A stream with its end as the last entry, which has no text. -/
def Stream.entries (stream : Stream) : List (Terminal × String × Nat) :=
  stream.tokens.toList.map Token.entry ++ [(.endOfInput, "", stream.length)]

namespace IsPartition

/-- No more pieces than characters. -/
theorem length_le {names : List String} {text : List Char} {tokens : List Token}
    (h : IsPartition names text tokens) : tokens.length ≤ text.length := by
  have pieces : ∀ ts : List Token, (∀ t ∈ ts, t.text ≠ "") → ts.length ≤ (texts ts).length := by
    intro ts nonempty
    induction ts with
    | nil => exact Nat.le_refl 0
    | cons t ts ih =>
        obtain ⟨here, later⟩ := List.forall_mem_cons.mp nonempty
        have first : 0 < t.text.toList.length := by
          apply List.length_pos_iff.mpr
          simpa using here
        have more : ts.length ≤ (texts ts).length := ih later
        simp only [texts, List.flatMap_cons, List.length_append, List.length_cons] at more ⊢
        omega
  rw [← h.texts_eq]
  exact pieces tokens h.text_ne

end IsPartition

section Choice

variable {text : List Char} {position stop : Nat} {name : String}

/-- A choice keeps the rules, and what is chosen is the name of one of them. -/
theorem choose_keeps {us vs : List Upcoming} {found : Option (String × Nat)}
    (h : Upcoming.choose text position us = (vs, found)) :
    vs.map (·.rule.name) = us.map (·.rule.name) ∧
      ∀ name stop, found = some (name, stop) → name ∈ us.map (·.rule.name) := by
  induction us generalizing vs found with
  | nil =>
      cases h
      exact ⟨rfl, nofun⟩
  | cons u more ih =>
      rw [Upcoming.choose] at h
      split at h
      · cases h
        refine ⟨by simp, fun name stop same => ?_⟩
        cases same
        simp
      · rcases later : Upcoming.choose text position more with ⟨vs, found⟩
        obtain ⟨names, chosen⟩ := ih later
        rw [later] at h
        cases h
        refine ⟨by simp [names], fun name stop same => ?_⟩
        exact List.mem_cons_of_mem _ (chosen name stop same)

/-- Where nothing is chosen, no rule has a match that starts there and is not empty. -/
theorem stop_le_of_chooseAfresh {rules : List TokenRule}
    (h : chooseAfresh text position rules = none) :
    ∀ rule ∈ rules, rule.matcher text position = some ⟨position, stop⟩ → stop ≤ position := by
  induction rules with
  | nil => exact nofun
  | cons rule more ih =>
      rw [chooseAfresh] at h
      refine List.forall_mem_cons.mpr ⟨fun found => ?_, ?_⟩
      · by_cases longer : position < stop
        · simp [found, longer] at h
        · omega
      · apply ih
        split at h
        · split at h
          · cases h
          · exact h
        · exact h

end Choice

section Scan

variable {text rest : List Char} {position offset : Nat} {us : List Upcoming}

theorem declared_of_scan :
    ∀ t ∈ (scan text position offset us rest).tokens, t.name ∈ us.map (·.rule.name) := by
  fun_induction scan text position offset us rest with
  | case1 position offset us => exact List.forall_mem_nil _
  | case2 position offset us c rest us' chosen => exact List.forall_mem_nil _
  | case3 position offset us c rest us' name stop chosen piece more ih =>
      obtain ⟨names, declared⟩ := choose_keeps chosen
      rw [names] at ih
      exact List.forall_mem_cons.mpr ⟨declared name stop rfl, ih⟩

theorem text_ne_of_scan :
    ∀ t ∈ (scan text position offset us rest).tokens, t.text ≠ "" := by
  fun_induction scan text position offset us rest with
  | case1 position offset us => exact List.forall_mem_nil _
  | case2 position offset us c rest us' chosen => exact List.forall_mem_nil _
  | case3 position offset us c rest us' name stop chosen piece more ih =>
      have forward : position < stop := Upcoming.lt_of_choose chosen
      obtain ⟨n, ahead⟩ : ∃ n, stop - position = n + 1 := ⟨stop - position - 1, by omega⟩
      refine List.forall_mem_cons.mpr ⟨?_, ih⟩
      simp [piece, ahead, ← String.toList_inj]

/-- A scan that fails does so at the character behind its tokens. -/
theorem texts_of_failed_scan {o : Nat} {c : Char}
    (h : (scan text position offset us rest).failure = some (o, c)) :
    ∃ after, rest = texts (scan text position offset us rest).tokens ++ c :: after ∧
      o = offset + byteLength (texts (scan text position offset us rest).tokens) := by
  fun_induction scan text position offset us rest with
  | case1 position offset us => cases h
  | case2 position offset us d rest us' chosen =>
      cases h
      exact ⟨rest, rfl, rfl⟩
  | case3 position offset us d rest us' name stop chosen piece more ih =>
      obtain ⟨after, behind, place⟩ := ih h
      refine ⟨after, ?_, ?_⟩
      · rw [texts, List.flatMap_cons, String.toList_ofList, List.append_assoc, ← texts, ← behind]
        exact (List.take_append_drop (stop - position) (d :: rest)).symm
      · rw [texts, List.flatMap_cons, Text.byteLength_append, ← texts, String.toList_ofList, place,
          Nat.add_assoc]

/-- A fresh scan that fails does so where nothing is chosen. -/
theorem choose_of_failed_scanAfresh {rules : List TokenRule} {o : Nat} {c : Char}
    (h : (scanAfresh text position offset rules rest).failure = some (o, c)) :
    chooseAfresh text
      (position + (texts (scanAfresh text position offset rules rest).tokens).length) rules =
        none := by
  fun_induction scanAfresh text position offset rules rest with
  | case1 position offset => cases h
  | case2 position offset d rest chosen => exact chosen
  | case3 position offset d rest name stop chosen piece more ih =>
      have forward : position < stop := lt_of_chooseAfresh chosen
      -- a match up to the end of the text leaves nothing to fail at
      have inside : stop - position ≤ (d :: rest).length := by
        refine Nat.le_of_not_lt fun beyond => ?_
        have nothing : (d :: rest).drop (stop - position) = [] :=
          List.drop_eq_nil_of_le (by omega)
        simp only [more, nothing, scanAfresh] at h
        cases h
      have taken : piece.length = stop - position := by
        simp only [piece, List.length_take]
        omega
      have behind : position + (texts (⟨name, String.ofList piece, offset⟩ :: more.tokens)).length =
          stop + (texts more.tokens).length := by
        simp only [texts, List.flatMap_cons, String.toList_ofList, List.length_append, taken]
        omega
      rw [behind]
      exact ih h

end Scan

theorem failure_of_tokenize {rules : List TokenRule} {input : String} {o : Nat} {c : Char}
    (h : tokenize rules input = .error (.noToken o c)) :
    (scanAll rules input.toList).failure = some (o, c) := by
  unfold tokenize at h
  dsimp only at h
  split at h
  · cases h
  · next found =>
      cases h
      rw [found]

section Whole

variable (rules : List TokenRule) (text : List Char)

/-- The tokens of a scan partition what they were made of, whether it fails or not. -/
theorem isPartition_scanAll :
    IsPartition (rules.map (·.name)) (texts (scanAll rules text).tokens)
      (scanAll rules text).tokens where
  texts_eq := rfl
  declared := by
    have declared := @declared_of_scan text text 0 0 (rules.map (Upcoming.ofRule text))
    rw [List.map_map] at declared
    exact declared
  text_ne := text_ne_of_scan
  offset_eq := by
    intro i t found
    have offset := offsets_of_scan text 0 0 (rules.map (Upcoming.ofRule text)) text i t found
    rwa [Nat.zero_add] at offset

variable {rules text}

/-- With matchers that find the least match nothing depends on what is remembered. -/
theorem scanAll_eq_afresh (finds : ∀ rule ∈ rules, FindsLeast text rule.matcher) :
    scanAll rules text = scanAfresh text 0 0 rules text := by
  have known : ∀ u ∈ rules.map (Upcoming.ofRule text),
      FindsLeast text u.rule.matcher ∧ u.Remembers text 0 := by
    rw [List.forall_mem_map]
    exact fun rule hr => ⟨finds rule hr, .inr rfl⟩
  have names : (rules.map (Upcoming.ofRule text)).map (·.rule) = rules := by
    rw [List.map_map]
    exact List.map_id rules
  have scanned := scan_eq_afresh 0 List.drop_zero.symm (fun u hu => (known u hu).1)
    fun _ u hu => (known u hu).2
  rwa [names] at scanned

/-- Where a scan fails, no rule has a match that starts there and is not empty. -/
theorem stop_le_of_failed_scanAll {o : Nat} {c : Char}
    (finds : ∀ rule ∈ rules, FindsLeast text rule.matcher)
    (h : (scanAll rules text).failure = some (o, c)) (stop : Nat) :
    ∀ rule ∈ rules, rule.matcher text (texts (scanAll rules text).tokens).length =
        some ⟨(texts (scanAll rules text).tokens).length, stop⟩ →
      stop ≤ (texts (scanAll rules text).tokens).length := by
  rw [scanAll_eq_afresh finds] at h ⊢
  have nothing := choose_of_failed_scanAfresh h
  rw [Nat.zero_add] at nothing
  exact stop_le_of_chooseAfresh nothing

end Whole

/-- Whatever the tokens and the input, tokenizing ends. Either the input is partitioned, and the
end of the input is an entry without text behind all its bytes; or the part in front of a
character is, and no pattern has a match there that is not empty. The latter is what a search
from there would find, which takes matchers that find the least match. -/
theorem tokenize_partitions (rules : List TokenRule) (input : String) :
    (∃ stream tokens, tokenize rules input = .ok stream ∧
      stream.entries = tokens.map Token.entry ++ [(.endOfInput, "", byteLength input.toList)] ∧
      IsPartition (rules.map (·.name)) input.toList tokens ∧
      tokens.length ≤ input.toList.length) ∨
    ∃ tokens before found after,
      tokenize rules input = .error (.noToken (byteLength before) found) ∧
      scanAll rules input.toList = ⟨tokens, some (byteLength before, found)⟩ ∧
      input.toList = before ++ found :: after ∧
      IsPartition (rules.map (·.name)) before tokens ∧
      tokens.length ≤ before.length ∧
      ((∀ rule ∈ rules, FindsLeast input.toList rule.matcher) →
        ∀ rule ∈ rules, ∀ stop, rule.matcher input.toList before.length =
          some ⟨before.length, stop⟩ → stop ≤ before.length) := by
  have partition := isPartition_scanAll rules input.toList
  cases h : tokenize rules input with
  | ok stream =>
      obtain ⟨scanned, length⟩ := tokenize_ok h
      rw [scanned] at partition
      have whole : texts stream.tokens.toList = input.toList := texts_of_tokenize h
      rw [whole] at partition
      refine .inl ⟨stream, stream.tokens.toList, rfl, ?_, partition, partition.length_le⟩
      rw [Stream.entries, length]
  | error e =>
      obtain ⟨o, c, rfl⟩ := tokenize_error h
      have failed : (scanAll rules input.toList).failure = some (o, c) := failure_of_tokenize h
      obtain ⟨after, split, place⟩ := texts_of_failed_scan failed
      rw [← scanAll, Nat.zero_add] at place
      subst place
      refine .inr ⟨_, texts (scanAll rules input.toList).tokens, c, after, rfl, ?_, split,
        partition, partition.length_le, fun finds rule hr stop => ?_⟩
      · rw [← failed]
      · exact stop_le_of_failed_scanAll finds failed stop rule hr

/-- Letters of two bytes, and blanks that may be none. -/
def accentRules : List TokenRule :=
  [("WORD", "é+"), ("BLANKS", " *")].filterMap
    fun (name, pattern) => (Pattern.matcher? pattern).map (TokenRule.mk name)

theorem tokenize_partitions_accents :
    accentRules.map (·.name) = ["WORD", "BLANKS"] ∧
      (∀ rule ∈ accentRules, FindsLeast "éé!".toList rule.matcher) ∧
      tokenize accentRules "éé!" = .error (.noToken 4 '!') ∧
      IsPartition ["WORD", "BLANKS"] "éé".toList [⟨"WORD", "éé", 0⟩] ∧
      ∀ rule ∈ accentRules, ∀ stop,
        rule.matcher "éé!".toList 2 = some ⟨2, stop⟩ → stop ≤ 2 := by
  have names : accentRules.map (·.name) = ["WORD", "BLANKS"] := by decide +kernel
  obtain ⟨word, blanks, rules, findsWord, findsBlanks⟩ :
      ∃ word blanks : TokenRule, accentRules = [word, blanks] ∧
        FindsLeast "éé!".toList word.matcher ∧ FindsLeast "éé!".toList blanks.matcher := by
    refine ⟨_, _, rfl, ⟨fun q => if q < 2 then some 2 else none, ?_⟩, ⟨some, ?_⟩⟩
    · decide +kernel
    · decide +kernel
  have finds : ∀ rule ∈ accentRules, FindsLeast "éé!".toList rule.matcher := by
    rw [rules]
    simp only [List.forall_mem_cons]
    exact ⟨findsWord, findsBlanks, nofun⟩
  have scanned : scanAll accentRules "éé!".toList = ⟨[⟨"WORD", "éé", 0⟩], some (4, '!')⟩ := by
    with_unfolding_all rfl
  rcases tokenize_partitions accentRules "éé!" with ⟨stream, _, ok, -⟩ |
    ⟨tokens, before, found, after, failed, scanned', split, partition, -, unmatched⟩
  · have failed : tokenize accentRules "éé!" = .error (.noToken 4 '!') := by
      rw [tokenize, scanned]
    rw [failed] at ok
    cases ok
  · obtain ⟨rfl, place⟩ := Scan.mk.inj (scanned.symm.trans scanned')
    obtain ⟨-, rfl⟩ := Prod.mk.inj (Option.some.inj place)
    obtain rfl : "éé".toList = before := partition.texts_eq
    rw [names] at partition
    exact ⟨names, finds, failed, partition, unmatched finds⟩

end PredictiveParsing.Parsing
