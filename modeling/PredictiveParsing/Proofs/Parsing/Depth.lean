import PredictiveParsing.Proofs.Parsing.Limit
import PredictiveParsing.Proofs.Parsing.Nesting

/-!
How deep a parse nests. The limit on the depth does nothing but cut parses off, and none is cut
off at a limit that has room for all the states at all the positions of the stream: a state that
would be nested deeper has been entered at its position before, and is refused for that.
-/
namespace PredictiveParsing.Parsing

variable {V P : Type}

namespace Compiled

variable {c : Compiled V P} {stream : Stream}

/-- A visit does not run out of levels if these and the states that are being expanded are
more than the states and positions there are. -/
theorem visitState_ne_recursionLimit (wf : c.WellFormed) {levels depth position limit : Nat}
    {state : String} {r r' : Run} (nested : c.Nested stream r)
    (room : c.grammar.states.length * (stream.tokens.size + 1) < levels + r.active.length) :
    c.visitState stream levels depth state r ≠ (.error (.recursionLimit position limit), r') := by
  intro h
  induction levels generalizing depth state r with
  | zero =>
      have count := nested.length_le
      omega
  | succ levels ih =>
      rw [visitState_succ] at h
      split at h
      · cases h
      · next free =>
          rcases expand_failed wf h with ⟨_, _, _, _, token⟩ | ⟨_, action⟩ |
            ⟨index, viaFollow, a, before, next, behind, vs, r₁, -, rule, -, read, failed⟩
          · cases token
          · cases action
          · have declared := (Grammar.hasRule_of_alternative? rule).state_mem
            obtain ⟨ts, -, -, reads⟩ := visitSymbols_sound wf read
            refine ih ((nested.enter free declared).reads reads) ?_ failed
            rw [reads.active, Run.enter_active, List.length_cons]
            omega

theorem parseStream_ne_recursionLimit (wf : c.WellFormed)
    (deep : c.grammar.states.length * (stream.tokens.size + 1) ≤ c.options.maxDepth)
    (position limit : Nat) :
    (c.parseStream stream).1 ≠ .error (.recursionLimit position limit) := by
  intro h
  rcases parseStream_error h with inside | ⟨v, r, -, -, -, behind⟩
  · exact visitState_ne_recursionLimit wf .initial (Nat.lt_succ_of_le deep) inside
  · rw [behind, unexpected] at h
    cases h

/-- The limit on the depth only cuts parses off. A parse that it does not cut off is the same
with any higher limit, steps included, and none is cut off at a limit of the states times the
positions of the stream, that of its end included, whatever the grammar. -/
theorem parse_cut_off_or_same {patterns : String → Option Text.Matcher}
    {evaluator : Action.Evaluator V P} {options : Options} {d : Grammar.Declarations}
    (h : ofDeclarations patterns evaluator options d = .ok c) (input : String) :
    (∀ limit, options.maxDepth ≤ limit → ∃ c',
      ofDeclarations patterns evaluator { options with maxDepth := limit } d = .ok c' ∧
      ((∃ position, c.parse input = .error (.recursionLimit position options.maxDepth)) ∨
        c.parse input = c'.parse input ∧ c.parseWithTrace input = c'.parseWithTrace input)) ∧
    ∀ stream, c.tokenize input = .ok stream →
      c.grammar.states.length * (stream.tokens.size + 1) ≤ options.maxDepth →
      ∀ position limit, c.parse input ≠ .error (.recursionLimit position limit) := by
  obtain ⟨wf, -, rfl, -⟩ := ofDeclarations_ok h
  refine ⟨fun limit higher => ?_, fun stream tokens deep position limit => ?_⟩
  · refine ⟨c.withMaxDepth limit, ofDeclarations_withMaxDepth h limit, ?_⟩
    have tokens : (c.withMaxDepth limit).tokenize input = c.tokenize input := rfl
    rw [parse, parse, parseWithTrace, parseWithTrace, tokens]
    cases c.tokenize input with
    | error e => exact .inr ⟨rfl, rfl⟩
    | ok stream =>
        rcases parseStream_eqUnless wf higher stream with ⟨e, failed, position, rfl⟩ | same
        · exact .inl ⟨position, failed⟩
        · simp only [← same, and_self, or_true]
  · rw [parse, tokens]
    exact parseStream_ne_recursionLimit wf deep position limit

theorem parse_cut_off_or_same_repetition :
    ∃ c c' c'', ofDeclarations Pattern.matcher? Action.outline
        { Options.standard with maxDepth := 2 } repetition = .ok c ∧
      ofDeclarations Pattern.matcher? Action.outline
        { Options.standard with maxDepth := 3 } repetition = .ok c' ∧
      ofDeclarations Pattern.matcher? Action.outline
        { Options.standard with maxDepth := 8 } repetition = .ok c'' ∧
      c.parse "aab" = .error (.recursionLimit 2 2) ∧
      c'.parse "aab" = .ok "x(y(\"a\",y(\"a\",z())),\"b\")" ∧
      c'.parseWithTrace "aab" = c''.parseWithTrace "aab" ∧
      ∀ position limit, c''.parse "aab" ≠ .error (.recursionLimit position limit) := by
  obtain ⟨c, compiled, cut⟩ :
      ∃ c, ofDeclarations Pattern.matcher? Action.outline
          { Options.standard with maxDepth := 2 } repetition = .ok c ∧
        c.parse "aab" = .error (.recursionLimit 2 2) :=
    ⟨_, rfl, by with_unfolding_all rfl⟩
  obtain ⟨c', compiled', parsed⟩ :
      ∃ c, ofDeclarations Pattern.matcher? Action.outline
          { Options.standard with maxDepth := 3 } repetition = .ok c ∧
        c.parse "aab" = .ok "x(y(\"a\",y(\"a\",z())),\"b\")" :=
    ⟨_, rfl, by with_unfolding_all rfl⟩
  obtain ⟨c'', compiled'', states, tokens⟩ :
      ∃ c, ofDeclarations Pattern.matcher? Action.outline
          { Options.standard with maxDepth := 8 } repetition = .ok c ∧
        c.grammar.states = ["s", "A"] ∧
        c.tokenize "aab" = .ok ⟨#[⟨"a", "a", 0⟩, ⟨"a", "a", 1⟩, ⟨"b", "b", 2⟩], 3⟩ :=
    ⟨_, rfl, rfl, by with_unfolding_all rfl⟩
  refine ⟨c, c', c'', compiled, compiled', compiled'', cut, parsed, ?_, ?_⟩
  · obtain ⟨higher, recompiled, same⟩ := (parse_cut_off_or_same compiled' "aab").1 8 (by decide)
    cases recompiled.symm.trans compiled''
    rcases same with ⟨position, failed⟩ | ⟨-, same⟩
    · rw [parsed] at failed
      cases failed
    · exact same
  · refine (parse_cut_off_or_same compiled'' "aab").2 _ tokens ?_
    rw [states]
    decide

end Compiled
end PredictiveParsing.Parsing
