import PredictiveParsing.Parsing.Error
import PredictiveParsing.Text.Bytes
import PredictiveParsing.Text.Matcher

/-!
Splitting an input into tokens. At every position the patterns are tried in
order, and the first one with a match that starts there and is not empty makes a
token. The next match of each pattern is remembered, and is searched for again
only when the position has gone past its start.
-/
namespace PredictiveParsing.Parsing

open Text (Span Matcher)

/-- The name of a token with the matcher of its pattern. -/
structure TokenRule where
  name : String
  matcher : Matcher

/-- A rule with its first match from some earlier position on. -/
structure Upcoming where
  rule : TokenRule
  next : Option Span

namespace Upcoming

/-- The first match of a rule in the whole text. -/
def ofRule (text : List Char) (rule : TokenRule) : Upcoming :=
  ⟨rule, rule.matcher text 0⟩

/-- Searches again if the position has gone past the start of the match. -/
def refresh (text : List Char) (position : Nat) (u : Upcoming) : Upcoming :=
  match u.next with
  | some m => if m.start < position then { u with next := u.rule.matcher text position } else u
  | none => u

/-- Where the match ends, if it starts at the position and is not empty. -/
def stop? (position : Nat) (u : Upcoming) : Option Nat :=
  match u.next with
  | some m => if m.start = position ∧ position < m.stop then some m.stop else none
  | none => none

/-- The first rule with a match at the position and where the match ends, with
the rules refreshed as far as they were asked. -/
def choose (text : List Char) (position : Nat) :
    List Upcoming → List Upcoming × Option (String × Nat)
  | [] => ([], none)
  | u :: more =>
    let u := u.refresh text position
    match u.stop? position with
    | some stop => (u :: more, some (u.rule.name, stop))
    | none =>
      let (more, found) := choose text position more
      (u :: more, found)

theorem lt_of_choose {text : List Char} {position stop : Nat} {name : String}
    {us vs : List Upcoming} (h : choose text position us = (vs, some (name, stop))) :
    position < stop := by
  induction us generalizing vs with
  | nil => simp [choose] at h
  | cons u more ih =>
    simp only [choose] at h
    split at h
    · next s hs =>
      simp only [stop?] at hs
      grind
    · rw [Prod.mk.injEq] at h
      exact ih (Prod.ext rfl h.2 :
        choose text position more = ((choose text position more).1, some (name, stop)))

end Upcoming

/-- The tokens read from a text, and where no token matches: the offset and the
character there. -/
structure Scan where
  tokens : List Token
  failure : Option (Nat × Char)
deriving DecidableEq, Repr

/-- Splits the rest of a text from a position on, which is at the given byte
offset. -/
def scan (text : List Char) (position offset : Nat) (rules : List Upcoming) :
    List Char → Scan
  | [] => ⟨[], none⟩
  | c :: rest =>
    match _h : Upcoming.choose text position rules with
    | (_, none) => ⟨[], some (offset, c)⟩
    | (rules, some (name, stop)) =>
      let piece := (c :: rest).take (stop - position)
      let more := scan text stop (offset + Text.byteLength piece) rules
        ((c :: rest).drop (stop - position))
      ⟨⟨name, String.ofList piece, offset⟩ :: more.tokens, more.failure⟩
termination_by rest => rest.length
decreasing_by
  have := Upcoming.lt_of_choose _h
  simp only [List.length_drop, List.length_cons]
  omega

/-- Splits a whole text. -/
def scanAll (rules : List TokenRule) (text : List Char) : Scan :=
  scan text 0 0 (rules.map (Upcoming.ofRule text)) text

/-- The tokens of an input. -/
def tokenize (rules : List TokenRule) (input : String) : Except ParseError Stream :=
  let text := input.toList
  match scanAll rules text with
  | ⟨tokens, none⟩ => .ok ⟨tokens.toArray, Text.byteLength text⟩
  | ⟨_, some (offset, c)⟩ => .error (.noToken offset c)

end PredictiveParsing.Parsing
