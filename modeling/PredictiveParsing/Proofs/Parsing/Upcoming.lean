import PredictiveParsing.Parsing.Tokenizer
import PredictiveParsing.Pattern.Search

/-!
Remembered matches give the tokens that fresh searches give. A match that was found from
an earlier position on is what a search would find now, unless the position has gone past
its start; then it is searched for again before it is used. This holds of the rules that
were asked last and of those that no token has asked for long.
-/
namespace PredictiveParsing.Parsing

open Text (Span Matcher)

/-- What a search from a position on finds in a text of this length: the match that
starts least, where `stop?` gives the end of the match that starts at a position. -/
def IsLeast (length : Nat) (stop? : Nat → Option Nat) (position : Nat) : Option Span → Prop
  | some m => position ≤ m.start ∧ m.start ≤ length ∧ stop? m.start = some m.stop ∧
      ∀ q < m.start, position ≤ q → stop? q = none
  | none => ∀ q ≤ length, position ≤ q → stop? q = none

instance (length : Nat) (stop? : Nat → Option Nat) (position : Nat) :
    (found : Option Span) → Decidable (IsLeast length stop? position found)
  | some m => inferInstanceAs (Decidable (position ≤ m.start ∧ m.start ≤ length ∧
      stop? m.start = some m.stop ∧ ∀ q < m.start, position ≤ q → stop? q = none))
  | none => inferInstanceAs (Decidable (∀ q ≤ length, position ≤ q → stop? q = none))

theorem IsLeast.unique {length position : Nat} {stop? : Nat → Option Nat}
    {found found' : Option Span} (h : IsLeast length stop? position found)
    (k : IsLeast length stop? position found') : found = found' := by
  cases found with
  | none =>
      cases found' with
      | none => rfl
      | some m =>
          obtain ⟨hp, hl, hs, -⟩ := k
          rw [h m.start hl hp] at hs
          cases hs
  | some m =>
      obtain ⟨hp, hl, hs, least⟩ := h
      cases found' with
      | none =>
          rw [k m.start hl hp] at hs
          cases hs
      | some m' =>
          obtain ⟨hp', hl', hs', least'⟩ := k
          have start : m.start = m'.start := by
            rcases Nat.lt_trichotomy m.start m'.start with lt | eq | gt
            · rw [least' _ lt hp] at hs
              cases hs
            · exact eq
            · rw [least _ gt hp'] at hs'
              cases hs'
          rw [start, hs'] at hs
          cases m
          cases m'
          cases start
          cases hs
          rfl

/-- A match that starts no earlier than a later position is found from there as well. -/
theorem IsLeast.later {length position next : Nat} {stop? : Nat → Option Nat}
    {found : Option Span} (h : IsLeast length stop? position found) (le : position ≤ next) :
    (∃ m, found = some m ∧ m.start < next) ∨ IsLeast length stop? next found := by
  cases found with
  | none => exact .inr fun q hq hn => h q hq (Nat.le_trans le hn)
  | some m =>
      obtain ⟨-, hl, hs, least⟩ := h
      rcases Nat.lt_or_ge m.start next with past | ahead
      · exact .inl ⟨m, rfl, past⟩
      · exact .inr ⟨ahead, hl, hs, fun q hq hn => least q hq (Nat.le_trans le hn)⟩

/-- The matcher gives the least match from every position of the text on, and the end of
a match depends on its start alone. -/
def FindsLeast (text : List Char) (matcher : Matcher) : Prop :=
  ∃ stop?, ∀ position ≤ text.length,
    IsLeast text.length stop? position (matcher text position)

theorem FindsLeast.later {text : List Char} {matcher : Matcher} (h : FindsLeast text matcher)
    {position next : Nat} (le : position ≤ next) (inside : next ≤ text.length) :
    (∃ m, matcher text position = some m ∧ m.start < next) ∨
      matcher text position = matcher text next := by
  obtain ⟨stop?, least⟩ := h
  rcases (least position (Nat.le_trans le inside)).later le with past | same
  · exact .inl past
  · exact .inr (same.unique (least next inside))

namespace Upcoming

variable {text : List Char}

/-- What a fresh search would find, unless it starts before the position. -/
def Remembers (text : List Char) (position : Nat) (u : Upcoming) : Prop :=
  (∃ m, u.next = some m ∧ m.start < position) ∨ u.next = u.rule.matcher text position

theorem Remembers.later {u : Upcoming} {position next : Nat}
    (finds : FindsLeast text u.rule.matcher) (h : u.Remembers text position)
    (le : position ≤ next) (inside : next ≤ text.length) : u.Remembers text next := by
  rcases h with ⟨m, hm, past⟩ | fresh
  · exact .inl ⟨m, hm, Nat.lt_of_lt_of_le past le⟩
  · rw [Remembers, fresh]
    exact finds.later le inside

@[simp] theorem refresh_rule (text : List Char) (position : Nat) (u : Upcoming) :
    (u.refresh text position).rule = u.rule := by
  rw [refresh]
  split
  · split <;> rfl
  · rfl

theorem refresh_next {u : Upcoming} {position : Nat} (h : u.Remembers text position) :
    (u.refresh text position).next = u.rule.matcher text position := by
  rw [refresh]
  split
  · next m hm =>
      split
      · rfl
      · next ahead =>
          rcases h with ⟨m', hm', past⟩ | fresh
          · obtain rfl := Option.some.inj (hm.symm.trans hm')
            exact absurd past ahead
          · exact fresh
  · next hn =>
      rcases h with ⟨m, hm, -⟩ | fresh
      · rw [hn] at hm
        cases hm
      · exact fresh

end Upcoming

/-- The first rule with a match, searched for from the position on, that starts there and
is not empty; and where the match ends. -/
def chooseAfresh (text : List Char) (position : Nat) : List TokenRule → Option (String × Nat)
  | [] => none
  | rule :: more =>
    match rule.matcher text position with
    | some m =>
      if m.start = position ∧ position < m.stop then some (rule.name, m.stop)
      else chooseAfresh text position more
    | none => chooseAfresh text position more

theorem lt_of_chooseAfresh {text : List Char} {position stop : Nat} {name : String}
    {rules : List TokenRule} (h : chooseAfresh text position rules = some (name, stop)) :
    position < stop := by
  induction rules with
  | nil => cases h
  | cons rule more ih =>
      rw [chooseAfresh] at h
      split at h
      · split at h
        · next found =>
            cases h
            exact found.2
        · exact ih h
      · exact ih h

/-- Splits the rest of a text from a position on, with a search for every pattern at
every position. -/
def scanAfresh (text : List Char) (position offset : Nat) (rules : List TokenRule) :
    List Char → Scan
  | [] => ⟨[], none⟩
  | c :: rest =>
    match _h : chooseAfresh text position rules with
    | none => ⟨[], some (offset, c)⟩
    | some (name, stop) =>
      let piece := (c :: rest).take (stop - position)
      let more := scanAfresh text stop (offset + Text.byteLength piece) rules
        ((c :: rest).drop (stop - position))
      ⟨⟨name, String.ofList piece, offset⟩ :: more.tokens, more.failure⟩
termination_by rest => rest.length
decreasing_by
  have := lt_of_chooseAfresh _h
  simp only [List.length_drop, List.length_cons]
  omega

/-- The tokens of an input, with nothing remembered. -/
def tokenizeAfresh (rules : List TokenRule) (input : String) : Except ParseError Stream :=
  let text := input.toList
  match scanAfresh text 0 0 rules text with
  | ⟨tokens, none⟩ => .ok ⟨tokens.toArray, Text.byteLength text⟩
  | ⟨_, some (offset, c)⟩ => .error (.noToken offset c)

section Choice

variable {text : List Char} {position : Nat}

private theorem chooseAfresh_cons {u : Upcoming} (h : u.Remembers text position)
    (rules : List TokenRule) :
    chooseAfresh text position (u.rule :: rules) =
      match (u.refresh text position).stop? position with
      | some stop => some (u.rule.name, stop)
      | none => chooseAfresh text position rules := by
  rw [chooseAfresh, Upcoming.stop?, Upcoming.refresh_next h]
  cases u.rule.matcher text position with
  | none => rfl
  | some m => by_cases here : m.start = position ∧ position < m.stop <;> simp [here]

private theorem choose_cons (u : Upcoming) (more : List Upcoming) :
    Upcoming.choose text position (u :: more) =
      match (u.refresh text position).stop? position with
      | some stop => (u.refresh text position :: more, some (u.rule.name, stop))
      | none => (u.refresh text position :: (Upcoming.choose text position more).1,
          (Upcoming.choose text position more).2) := by
  rw [Upcoming.choose]
  cases (u.refresh text position).stop? position with
  | none => rfl
  | some stop => simp

/-- One choice, which keeps the rules and what is known of them. Those behind the rule
that is chosen are not looked at. -/
theorem choose_eq_afresh {us : List Upcoming} (h : ∀ u ∈ us, u.Remembers text position) :
    (Upcoming.choose text position us).2 = chooseAfresh text position (us.map (·.rule)) ∧
      (Upcoming.choose text position us).1.map (·.rule) = us.map (·.rule) ∧
      ∀ u ∈ (Upcoming.choose text position us).1, u.Remembers text position := by
  induction us with
  | nil => exact ⟨rfl, rfl, nofun⟩
  | cons u more ih =>
      have hu := h u List.mem_cons_self
      have hmore : ∀ v ∈ more, v.Remembers text position :=
        fun v hv => h v (List.mem_cons_of_mem u hv)
      have refreshed : (u.refresh text position).Remembers text position := by
        rw [Upcoming.Remembers, Upcoming.refresh_rule]
        exact .inr (Upcoming.refresh_next hu)
      rw [choose_cons, List.map_cons, chooseAfresh_cons hu]
      cases (u.refresh text position).stop? position with
      | some stop =>
          exact ⟨rfl, by simp, List.forall_mem_cons.mpr ⟨refreshed, hmore⟩⟩
      | none =>
          obtain ⟨chosen, rules, remembered⟩ := ih hmore
          exact ⟨chosen, by simp [rules], List.forall_mem_cons.mpr ⟨refreshed, remembered⟩⟩

end Choice

private theorem lt_length_of_drop {text rest : List Char} {position : Nat} {c : Char}
    (ahead : c :: rest = text.drop position) : position < text.length := by
  have len := congrArg List.length ahead
  rw [List.length_cons, List.length_drop] at len
  omega

/-- The scan from any position on. What is remembered at the position is remembered
wherever the chosen token ends. -/
theorem scan_eq_afresh {text : List Char} {position : Nat} (offset : Nat) {us : List Upcoming}
    {rest : List Char} (ahead : rest = text.drop position)
    (finds : ∀ u ∈ us, FindsLeast text u.rule.matcher)
    (h : position ≤ text.length → ∀ u ∈ us, u.Remembers text position) :
    scan text position offset us rest =
      scanAfresh text position offset (us.map (·.rule)) rest := by
  fun_induction scan text position offset us rest with
  | case1 position offset us => rw [scanAfresh]
  | case2 position offset us c rest us' chosen =>
      have inside := lt_length_of_drop ahead
      have afresh := (choose_eq_afresh (h (Nat.le_of_lt inside))).1
      rw [chosen] at afresh
      rw [scanAfresh]
      split
      · rfl
      · next some => simp [← afresh] at some
  | case3 position offset us c rest us' name stop chosen piece more ih =>
      have inside := lt_length_of_drop ahead
      obtain ⟨afresh, rules, remembered⟩ := choose_eq_afresh (h (Nat.le_of_lt inside))
      rw [chosen] at afresh rules remembered
      have forward : position < stop := Upcoming.lt_of_choose chosen
      have finds' : ∀ u ∈ us', FindsLeast text u.rule.matcher := by
        intro u hu
        have kept : u.rule ∈ us.map (·.rule) := rules ▸ List.mem_map_of_mem hu
        obtain ⟨v, hv, same⟩ := List.mem_map.mp kept
        exact same ▸ finds v hv
      have ahead' : (c :: rest).drop (stop - position) = text.drop stop := by
        rw [ahead, List.drop_drop, Nat.add_sub_cancel' (Nat.le_of_lt forward)]
      have later := ih ahead' finds' fun hs u hu =>
        (remembered u hu).later (finds' u hu) (Nat.le_of_lt forward) hs
      rw [scanAfresh]
      split
      · next none => simp [← afresh] at none
      · next name' stop' some =>
          rw [← afresh] at some
          cases some
          rw [← rules]
          simp only [more, later, piece]

/-- What is remembered makes no difference to the tokens of an input, nor to where it has
none. Of the matchers nothing is asked but that they find the least match, whose end
depends on the text and its start alone. -/
theorem tokenize_eq_afresh {rules : List TokenRule} {input : String}
    (finds : ∀ rule ∈ rules, FindsLeast input.toList rule.matcher) :
    tokenize rules input = tokenizeAfresh rules input := by
  have known : ∀ u ∈ rules.map (Upcoming.ofRule input.toList),
      FindsLeast input.toList u.rule.matcher ∧ u.Remembers input.toList 0 := by
    intro u hu
    obtain ⟨rule, hr, rfl⟩ := List.mem_map.mp hu
    exact ⟨finds rule hr, .inr rfl⟩
  have scanned := scan_eq_afresh 0 List.drop_zero.symm (fun u hu => (known u hu).1)
    fun _ u hu => (known u hu).2
  have names : (rules.map (Upcoming.ofRule input.toList)).map (·.rule) = rules := by
    rw [List.map_map]
    exact List.map_id rules
  rw [names] at scanned
  rw [tokenize, scanAll, scanned]
  rfl

/-- A word, a letter at the start of the text only, letters that may be none, and a blank. -/
def wordRules : List TokenRule :=
  [("END", "end"), ("FIRST", "^a"), ("LETTERS", "a*"), ("BLANK", " ")].filterMap
    fun (name, pattern) => (Pattern.matcher? pattern).map (TokenRule.mk name)

theorem tokenize_eq_afresh_word :
    wordRules.map (·.name) = ["END", "FIRST", "LETTERS", "BLANK"] ∧
      (∀ rule ∈ wordRules, FindsLeast "aa end".toList rule.matcher) ∧
      tokenize wordRules "aa end" = tokenizeAfresh wordRules "aa end" ∧
      tokenize wordRules "aa end" = .ok
        ⟨#[⟨"FIRST", "a", 0⟩, ⟨"LETTERS", "a", 1⟩, ⟨"BLANK", " ", 2⟩, ⟨"END", "end", 3⟩], 6⟩ := by
  obtain ⟨word, first, letters, blank, rules, findsWord, findsFirst, findsLetters, findsBlank⟩ :
      ∃ word first letters blank : TokenRule, wordRules = [word, first, letters, blank] ∧
        FindsLeast "aa end".toList word.matcher ∧ FindsLeast "aa end".toList first.matcher ∧
        FindsLeast "aa end".toList letters.matcher ∧
        FindsLeast "aa end".toList blank.matcher := by
    refine ⟨_, _, _, _, rfl, ⟨fun q => if q = 3 then some 6 else none, ?_⟩,
      ⟨fun q => if q = 0 then some 1 else none, ?_⟩, ⟨fun q => some (max q 2), ?_⟩,
      ⟨fun q => if q = 2 then some 3 else none, ?_⟩⟩
    · decide +kernel
    · decide +kernel
    · decide +kernel
    · decide +kernel
  have finds : ∀ rule ∈ wordRules, FindsLeast "aa end".toList rule.matcher := by
    rw [rules]
    simp only [List.forall_mem_cons]
    exact ⟨findsWord, findsFirst, findsLetters, findsBlank, nofun⟩
  exact ⟨by decide +kernel, finds, tokenize_eq_afresh finds, by with_unfolding_all rfl⟩

end PredictiveParsing.Parsing
