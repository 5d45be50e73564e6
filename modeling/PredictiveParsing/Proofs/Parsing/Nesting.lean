import Mathlib.Data.List.ProdSigma
import PredictiveParsing.Proofs.Parsing.Soundness

/-!
Which visits come to be inside which others. Every state that is being expanded has come
to visit the one that is visited now, each behind symbols that were read. A state that is
refused because it is being expanded at the position has therefore come back to itself. Since
such a state is refused, there are no more of them than pairs of a state and a position.
-/
namespace PredictiveParsing.Parsing

open Grammar (Alternative Symbol Terminal)
open PredictiveParsing.Parsing.Tree (leavesOf)

variable {V P : Type}

namespace Compiled

variable {c : Compiled V P} {stream : Stream}

/-- The expansion of the first state at its position comes to visit the second one at its
own: the rule that is selected has it behind symbols that are read in between. -/
inductive Calls (c : Compiled V P) (stream : Stream) : String × Nat → String × Nat → Prop where
  | intro {state name : String} {index : Nat} {viaFollow : Bool} {a : Alternative}
      {before behind : List Symbol} {levels depth : Nat} {r r' : Run} {vs : List V}
      (selected : c.select? state (nextTerminal stream r) = some (index, viaFollow))
      (rule : c.grammar.alternative? state index = some a)
      (split : a.symbols = before ++ .state name :: behind)
      (read : c.visitSymbols stream depth (c.visitState stream levels depth) before r =
        (.ok vs, r')) :
      Calls c stream (state, r.cursor) (name, r'.cursor)

/-- In front of a call a rule is read, and the trees of what is read tell how far. -/
theorem Calls.exists_forest (wf : c.WellFormed) {e e' : String × Nat} (h : c.Calls stream e e') :
    ∃ a before behind ts, c.grammar.HasRule e.1 a ∧ a.symbols = before ++ .state e'.1 :: behind ∧
      IsForest c.grammar before ts ∧ e'.2 = e.2 + (leavesOf ts).length := by
  cases h with
  | intro selected rule split read =>
      obtain ⟨ts, forest, -, reads⟩ := visitSymbols_sound wf read
      exact ⟨_, _, _, ts, Grammar.hasRule_of_alternative? rule, split, forest, reads.cursor⟩

theorem Calls.position_le (wf : c.WellFormed) {e e' : String × Nat} (h : c.Calls stream e e') :
    e.2 ≤ e'.2 := by
  obtain ⟨-, -, -, ts, -, -, -, position⟩ := h.exists_forest wf
  rw [position]
  exact Nat.le_add_right e.2 _

theorem position_le_of_calls (wf : c.WellFormed) {e e' : String × Nat}
    (h : Relation.TransGen (c.Calls stream) e e') : e.2 ≤ e'.2 := by
  induction h with
  | single call => exact call.position_le wf
  | tail _ call ih => exact Nat.le_trans ih (call.position_le wf)

/-- What holds of the states that are being expanded: they are different at one position, and
the stream has their positions. -/
structure Nested (c : Compiled V P) (stream : Stream) (r : Run) : Prop where
  within : r.cursor ≤ stream.tokens.size
  nodup : r.active.Nodup
  entered : ∀ e ∈ r.active, e.1 ∈ c.grammar.states ∧ e.2 ≤ stream.tokens.size

namespace Nested

variable {r : Run}

theorem initial : c.Nested stream .initial :=
  ⟨Nat.zero_le _, .nil, nofun⟩

theorem reads (h : c.Nested stream r) {tokens : List Token} {r' : Run}
    (reads : Reads stream r tokens r') : c.Nested stream r' :=
  ⟨reads.within h.within, reads.active ▸ h.nodup, reads.active ▸ h.entered⟩

theorem enter (h : c.Nested stream r) {depth : Nat} {state : String} {a : Alternative}
    {viaFollow : Bool} (free : (state, r.cursor) ∉ r.active)
    (declared : state ∈ c.grammar.states) :
    c.Nested stream (r.enter stream depth state a viaFollow) := by
  refine ⟨h.within, List.nodup_cons.mpr ⟨free, h.nodup⟩, fun e he => ?_⟩
  rcases List.mem_cons.mp he with rfl | he
  · exact ⟨declared, h.within⟩
  · exact h.entered e he

theorem length_le (h : c.Nested stream r) :
    r.active.length ≤ c.grammar.states.length * (stream.tokens.size + 1) := by
  have pairs : r.active ⊆ c.grammar.states ×ˢ List.range (stream.tokens.size + 1) := by
    intro e he
    obtain ⟨declared, within⟩ := h.entered e he
    exact List.mem_product.mpr ⟨declared, List.mem_range.mpr (Nat.lt_succ_of_le within)⟩
  have count := (List.subperm_of_subset h.nodup pairs).length_le
  rwa [List.length_product, List.length_range] at count

end Nested

section Failure

variable {visit : String → Run → Outcome V} {levels depth p : Nat} {state name : String}
  {r r' : Run}

/-- An expansion fails at a token, by its action, or as the visit of a state in its rule does,
behind symbols that are read. -/
theorem expand_failed (wf : c.WellFormed) {e : ParseError}
    (h : c.expand stream depth visit state r = (.error e, r')) :
    (∃ position offset found expected, e = .unexpected position offset found expected) ∨
      (∃ cause, e = .action state cause) ∨
      ∃ index viaFollow a before next behind vs r₁,
        c.select? state (nextTerminal stream r) = some (index, viaFollow) ∧
        c.grammar.alternative? state index = some a ∧
        a.symbols = before ++ .state next :: behind ∧
        c.visitSymbols stream (depth + 1) visit before (r.enter stream depth state a viaFollow) =
          (.ok vs, r₁) ∧
        visit next r₁ = (.error e, r') := by
  rcases expand_cases wf stream state r with
    ⟨-, refused⟩ | ⟨index, viaFollow, a, selected, rule, expanded⟩
  · rw [refused] at h
    cases h
    exact .inl ⟨_, _, _, _, rfl⟩
  · rw [expanded] at h
    rcases Outcome.andThen_eq_error h with h | ⟨children, after, -, h⟩
    · obtain ⟨before, y, behind, vs, r₁, split, read, failed⟩ := visitSymbols_error h
      cases y with
      | epsilon => cases failed
      | token next => exact .inl (visitSymbols_token_error failed).2
      | state next =>
          exact .inr (.inr ⟨index, viaFollow, a, before, next, behind, vs, r₁, selected, rule,
            split, read, visitSymbols_state_error.mp failed⟩)
    · exact .inr (.inl (act_error (Prod.mk.inj h).1))

theorem expand_noProgress (wf : c.WellFormed)
    (h : c.expand stream depth visit state r = (.error (.noProgress name p), r')) :
    ∃ index viaFollow a before next behind vs r₁,
      c.select? state (nextTerminal stream r) = some (index, viaFollow) ∧
      c.grammar.alternative? state index = some a ∧
      a.symbols = before ++ .state next :: behind ∧
      c.visitSymbols stream (depth + 1) visit before (r.enter stream depth state a viaFollow) =
        (.ok vs, r₁) ∧
      visit next r₁ = (.error (.noProgress name p), r') := by
  rcases expand_failed wf h with ⟨_, _, _, _, token⟩ | ⟨_, action⟩ | inside
  · cases token
  · cases action
  · exact inside

/-- The state that is refused has come back to itself, if all the states that were being
expanded have come to the one that is visited. -/
theorem calls_of_noProgress (wf : c.WellFormed)
    (inside : ∀ e ∈ r.active, Relation.TransGen (c.Calls stream) e (state, r.cursor))
    (h : c.visitState stream levels depth state r = (.error (.noProgress name p), r')) :
    Relation.TransGen (c.Calls stream) (name, p) (name, p) := by
  induction levels generalizing depth state r with
  | zero => cases h
  | succ levels ih =>
      rw [visitState_succ] at h
      split at h
      · next busy =>
          cases h
          exact inside _ busy
      · obtain ⟨index, viaFollow, a, before, next, behind, vs, r₁, selected, rule, split, read,
          failed⟩ := expand_noProgress wf h
        obtain ⟨ts, -, -, reads⟩ := visitSymbols_sound wf read
        have call : c.Calls stream (state, r.cursor) (next, r₁.cursor) :=
          Calls.intro (r := r.enter stream depth state a viaFollow) selected rule split read
        refine ih (fun e he => ?_) failed
        rw [reads.active, Run.enter_active] at he
        rcases List.mem_cons.mp he with rfl | he
        · exact .single call
        · exact (inside e he).tail call

end Failure

theorem parseStream_noProgress {name : String} {p : Nat}
    (h : (c.parseStream stream).1 = .error (.noProgress name p)) :
    ∃ r, c.visitState stream (c.options.maxDepth + 1) 0 Grammar.startName .initial =
      (.error (.noProgress name p), r) := by
  rcases parseStream_error h with inside | ⟨v, r, -, -, -, behind⟩
  · exact ⟨_, inside⟩
  · rw [behind, unexpected] at h
    cases h

/-- A parse that makes no progress has come back to a state at its position. -/
theorem calls_of_parseStream (wf : c.WellFormed) {name : String} {p : Nat}
    (h : (c.parseStream stream).1 = .error (.noProgress name p)) :
    Relation.TransGen (c.Calls stream) (name, p) (name, p) := by
  obtain ⟨r, failed⟩ := parseStream_noProgress h
  exact calls_of_noProgress wf (fun _ he => absurd he List.not_mem_nil) failed

end Compiled
end PredictiveParsing.Parsing
