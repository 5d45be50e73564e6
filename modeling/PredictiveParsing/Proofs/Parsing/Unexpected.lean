import PredictiveParsing.Proofs.Parsing.Completeness
import PredictiveParsing.Proofs.Parsing.CutOff
import PredictiveParsing.Proofs.Parsing.Limit
import PredictiveParsing.Proofs.Parsing.Locality

/-!
Where a token is unexpected. What was read in front of it begins something that the start
state derives, in any grammar. Without conflicts the token is also the first one that is
impossible: a visit of a stream that goes on after it in a derivable way would have been the
same up to the token, and does not fail there.
-/
namespace PredictiveParsing.Parsing

open Grammar (Alternative Symbol Terminal)
open PredictiveParsing.Parsing.Tree (leavesOf)

variable {V P : Type}

/-- The stream with other tokens behind the one at a position. -/
def Stream.goOn (stream : Stream) (position : Nat) (rest : List Token) : Stream :=
  ⟨(stream.tokens.toList.take (position + 1) ++ rest).toArray, stream.length⟩

theorem Stream.agree_goOn {stream : Stream} {position : Nat} (inside : position < stream.tokens.size)
    (rest : List Token) : stream.Agree (stream.goOn position rest) position := by
  have same : ∀ i ≤ position, (stream.goOn position rest).tokens[i]? = stream.tokens[i]? := by
    intro i hi
    have length : (stream.tokens.toList.take (position + 1)).length = position + 1 := by
      rw [List.length_take, Array.length_toList]
      omega
    rw [goOn, List.getElem?_toArray, List.getElem?_append_left (by omega),
      List.getElem?_take_of_lt (by omega), Array.getElem?_toList]
  intro i hi
  refine ⟨same i hi, ?_⟩
  rw [offsetAt, offsetAt, same i hi]
  rfl

/-- A sequence that begins like the stream is what the stream goes on to be. -/
theorem Stream.kinds_goOn {stream : Stream} {position : Nat}
    (inside : position < stream.tokens.size) {tokens : List Token}
    (h : kinds (stream.tokens.toList.take (position + 1)) <+: kinds tokens) :
    kinds (stream.goOn position (tokens.drop (position + 1))).tokens.toList = kinds tokens := by
  obtain ⟨rest, hr⟩ := h
  have length : (kinds (stream.tokens.toList.take (position + 1))).length = position + 1 := by
    rw [kinds, List.length_map, List.length_take, Array.length_toList]
    omega
  have behind : kinds (tokens.drop (position + 1)) = rest := by
    rw [kinds, List.map_drop, ← kinds, ← hr, List.drop_left' length]
  rw [goOn, kinds, List.map_append, ← kinds, ← kinds, behind, hr]

namespace Compiled

variable {c : Compiled V P} {stream : Stream}

section Parse

variable {position offset : Nat} {found : Option Token} {expected : Expectation}

/-- A token is unexpected inside the start state, or behind it where the input should end. -/
theorem parseStream_unexpected (wf : c.WellFormed)
    (h : (c.parseStream stream).1 = .error (.unexpected position offset found expected)) :
    ∃ r, (position = r.cursor ∧ offset = stream.offsetAt r.cursor ∧
        found = r.lookahead stream) ∧
      (c.visitState stream (c.options.maxDepth + 1) 0 Grammar.startName .initial =
          (.error (.unexpected position offset found expected), r) ∨
        (r.lookahead stream).isSome = true ∧
          ∃ v, c.visitState stream (c.options.maxDepth + 1) 0 Grammar.startName .initial =
            (.ok v, r)) := by
  rcases parseStream_error h with inside | ⟨v, r, read, -, left, behind⟩
  · obtain ⟨ts, cut⟩ := visitState_cutOff wf inside
    obtain ⟨closing, closed, -⟩ := cut.steps
    refine ⟨_, ?_, .inl inside⟩
    cases closed
    exact ⟨rfl, rfl, rfl⟩
  · rw [behind, unexpected_eq] at h
    cases h
    exact ⟨r, ⟨rfl, rfl, rfl⟩, .inr ⟨left, v, read⟩⟩

/-- With enough levels no stream that holds the same up to the unexpected token is
derivable. -/
theorem not_derives_of_deep (wf : c.WellFormed) (ll1 : c.grammar.IsLL1 c.first c.follow)
    (h : (c.parseStream stream).1 = .error (.unexpected position offset found expected))
    {stream' : Stream} (agree : stream.Agree stream' position)
    (deep : c.grammar.states.length * (stream'.tokens.size + 1) ≤ c.options.maxDepth) :
    ¬c.grammar.Derives [.state Grammar.startName] (kinds stream'.tokens.toList) := by
  intro derives
  obtain ⟨t, tree, leaves⟩ := (derives_iff_exists_tree wf.grammar).mp derives
  have gives := visitState_of_tree wf ll1 deep tree leaves
  have same : EqIfAgree stream stream' .initial
      (c.visitState stream (c.options.maxDepth + 1) 0 Grammar.startName .initial)
      (c.visitState stream' (c.options.maxDepth + 1) 0 Grammar.startName .initial) :=
    visitState_eqIfAgree wf _ _ _ _
  obtain ⟨r, ⟨rfl, -, -⟩, inside | ⟨left, v, read⟩⟩ := parseStream_unexpected wf h
  · rw [inside] at same
    have value := gives.value
    rw [same.eq agree] at value
    obtain ⟨state, cause, he⟩ := Tree.value_error value.symm
    cases he
  -- the visit has read all tokens of the other stream, which has one more
  · rw [read] at same
    rw [same.eq agree] at gives
    have behind := gives.reads v gives.value.symm
    rw [leaves] at behind
    rw [← agree.lookahead, lookahead_of_reads behind] at left
    cases left

/-- The limit on the depth has no part in it. -/
theorem not_derives_of_unexpected (wf : c.WellFormed) (ll1 : c.grammar.IsLL1 c.first c.follow)
    (h : (c.parseStream stream).1 = .error (.unexpected position offset found expected))
    {stream' : Stream} (agree : stream.Agree stream' position) :
    ¬c.grammar.Derives [.state Grammar.startName] (kinds stream'.tokens.toList) := by
  obtain ⟨limit, higher, enough⟩ : ∃ limit, c.options.maxDepth ≤ limit ∧
      c.grammar.states.length * (stream'.tokens.size + 1) ≤ limit :=
    ⟨max _ _, Nat.le_max_left _ _, Nat.le_max_right _ _⟩
  have same := (parseStream_eqUnless wf higher stream).eq fun e he => by
    rw [h] at he
    cases he
    rintro ⟨_, he⟩
    cases he
  rw [← same] at h
  exact not_derives_of_deep (c := c.withMaxDepth limit) (wf.withMaxDepth limit) ll1 h agree enough

theorem parseStream_viable (wf : c.WellFormed)
    (h : (c.parseStream stream).1 = .error (.unexpected position offset found expected)) :
    position ≤ stream.tokens.size ∧ ∃ rest, c.grammar.Derives [.state Grammar.startName]
      (kinds (stream.tokens.toList.take position) ++ rest) := by
  obtain ⟨ts, cut⟩ := parseStream_cutOff wf h
  obtain ⟨leaves, within⟩ := cut.passes.eq_take
  obtain ⟨closing, closed, -⟩ := cut.steps
  obtain rfl : position = (c.parseStream stream).2.cursor := by
    cases closed
    rfl
  rw [← leaves]
  exact ⟨within, cut.forest.derives⟩

/-- An unexpected token is reported at its position and byte offset. What was read in front
of it begins a form that the start state derives, in any grammar that compiles. Without
conflicts no derivable sequence of tokens goes on with the token, and where it is the end of
the input the sequence is not derivable as it stands. -/
theorem unexpected_first_impossible {patterns : String → Option Text.Matcher}
    {evaluator : Action.Evaluator V P} {options : Options} {d : Grammar.Declarations}
    (h : ofDeclarations patterns evaluator options d = .ok c) {input : String}
    (failed : c.parse input = .error (.unexpected position offset found expected)) :
    ∃ stream, c.tokenize input = .ok stream ∧ position ≤ stream.tokens.size ∧
      found = stream.tokens[position]? ∧ (∀ t, found = some t → offset = t.offset) ∧
      offset = Text.byteLength ((stream.tokens.toList.take position).flatMap (·.text.toList)) ∧
      (∃ rest, c.grammar.Derives [.state Grammar.startName]
        (kinds (stream.tokens.toList.take position) ++ rest)) ∧
      (c.grammar.IsLL1 c.first c.follow →
        (position < stream.tokens.size → ∀ tokens,
          c.grammar.Derives [.state Grammar.startName] (kinds tokens) →
          ¬kinds (stream.tokens.toList.take (position + 1)) <+: kinds tokens) ∧
        (position = stream.tokens.size → ¬c.grammar.Derives [.state Grammar.startName]
          (kinds (stream.tokens.toList.take position)))) := by
  obtain ⟨wf, -⟩ := ofDeclarations_ok h
  rcases parse_eq_error failed with ⟨_, _, he⟩ | ⟨stream, ht, failed⟩
  · cases he
  obtain ⟨within, viable⟩ := parseStream_viable wf failed
  obtain ⟨r, ⟨rfl, rfl, rfl⟩, -⟩ := parseStream_unexpected wf failed
  refine ⟨stream, ht, within, rfl, ?_, offsetAt_of_tokenize ht _, viable, ?_⟩
  · intro t hf
    have token : stream.tokens[r.cursor]? = some t := hf
    rw [Stream.offsetAt, token]
  · intro ll1
    constructor
    · intro inside tokens derives goes
      rw [← Stream.kinds_goOn inside goes] at derives
      exact not_derives_of_unexpected wf ll1 failed (Stream.agree_goOn inside _) derives
    · intro atEnd derives
      rw [atEnd, ← Array.length_toList, List.take_length] at derives
      exact not_derives_of_unexpected wf ll1 failed (fun _ _ => ⟨rfl, rfl⟩) derives

/-- An optional word that the next token follows, and which another token follows only in a
state that is never reached. -/
def detour : Grammar.Declarations where
  tokens := [⟨"a", "a"⟩, ⟨"b", "b"⟩, ⟨"c", "c"⟩, ⟨"d", "d"⟩]
  rules := [.ofWords "s" "a B c" "x", .ofWords "B" "b" "y", .ofWords "B" "EPS" "z",
    .ofWords "U" "B d" "w"]

theorem unexpected_first_impossible_detour :
    ∃ c, ofDeclarations Pattern.matcher? Action.outline .standard detour = .ok c ∧
      c.grammar.IsLL1 c.first c.follow ∧ c.select? "B" (.token "d") = some (1, true) ∧
      c.parse "ad" = .error (.unexpected 1 1 (some ⟨"d", "d", 1⟩) (.names ["c"])) ∧
      (∃ rest, c.grammar.Derives [.state Grammar.startName] (.token "a" :: rest)) ∧
      (∀ tokens, c.grammar.Derives [.state Grammar.startName] (kinds tokens) →
        ¬[.token "a", .token "d"] <+: kinds tokens) ∧
      c.parse "ab" = .error (.unexpected 2 2 none (.names ["c"])) ∧
      ¬c.grammar.Derives [.state Grammar.startName] [.token "a", .token "b"] := by
  obtain ⟨c, compiled, ll1, viaFollow, tokens, tokens', failed, failed'⟩ :
      ∃ c, ofDeclarations Pattern.matcher? Action.outline .standard detour = .ok c ∧
        c.grammar.IsLL1 c.first c.follow ∧ c.select? "B" (.token "d") = some (1, true) ∧
        c.tokenize "ad" = .ok ⟨#[⟨"a", "a", 0⟩, ⟨"d", "d", 1⟩], 2⟩ ∧
        c.tokenize "ab" = .ok ⟨#[⟨"a", "a", 0⟩, ⟨"b", "b", 1⟩], 2⟩ ∧
        c.parse "ad" = .error (.unexpected 1 1 (some ⟨"d", "d", 1⟩) (.names ["c"])) ∧
        c.parse "ab" = .error (.unexpected 2 2 none (.names ["c"])) :=
    ⟨_, rfl, ⟨by decide +kernel, by decide +kernel, by decide +kernel⟩, by decide +kernel,
      by with_unfolding_all rfl, by with_unfolding_all rfl, by with_unfolding_all rfl,
      by with_unfolding_all rfl⟩
  obtain ⟨stream, ht, -, -, -, -, viable, impossible⟩ := unexpected_first_impossible compiled failed
  obtain ⟨stream', ht', -, -, -, -, -, impossible'⟩ := unexpected_first_impossible compiled failed'
  cases tokens.symm.trans ht
  cases tokens'.symm.trans ht'
  exact ⟨c, compiled, ll1, viaFollow, failed, viable, (impossible ll1).1 (by decide), failed',
    (impossible' ll1).2 rfl⟩

end Parse

end Compiled
end PredictiveParsing.Parsing
