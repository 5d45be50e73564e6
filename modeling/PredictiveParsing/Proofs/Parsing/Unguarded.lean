import PredictiveParsing.Proofs.Parsing.Limit
import PredictiveParsing.Proofs.Parsing.Nesting

/-!
A parse that does not look for progress. It is the same as long as there is progress, and
does not end by itself where there is none: what has come back to itself without reading
anything does so again and again, until the levels are used up.
-/
namespace PredictiveParsing.Parsing

open Grammar (Alternative Symbol Terminal)

variable {V P : Type}

def ParseError.IsNoProgress (e : ParseError) : Prop :=
  ∃ state position, e = .noProgress state position

/-- An outcome with the value at the position `stop`, or without the levels to get there
from `start`. -/
structure Repeats {α : Type} (limit start stop : Nat) (a : α) (o : Outcome α) : Prop where
  forth : start ≤ stop
  outcome : (∃ r, r.cursor = stop ∧ o = (.ok a, r)) ∨
    ∃ position, start ≤ position ∧ position ≤ stop ∧
      o.1 = .error (.recursionLimit position limit)

namespace Repeats

variable {α β : Type} {limit start middle stop : Nat} {a : α} {b : β}

theorem ok {r : Run} (h : r.cursor = stop) : Repeats limit stop stop a (.ok a, r) :=
  ⟨Nat.le_refl stop, .inl ⟨r, h, rfl⟩⟩

theorem andThen {o : Outcome α} {f : α → Run → Outcome β}
    (h : Repeats limit start middle a o)
    (next : ∀ r, r.cursor = middle → Repeats limit middle stop b (f a r)) :
    Repeats limit start stop b (o.andThen f) := by
  have further : middle ≤ stop := (next ⟨middle, [], #[]⟩ rfl).forth
  refine ⟨Nat.le_trans h.forth further, ?_⟩
  rcases h.outcome with ⟨r, hr, rfl⟩ | ⟨position, above, below, failed⟩
  · rcases (next r hr).outcome with done | ⟨position, above, below, failed⟩
    · exact .inl done
    · exact .inr ⟨position, Nat.le_trans h.forth above, below, failed⟩
  · exact .inr ⟨position, above, Nat.le_trans below further, Outcome.andThen_fst_error failed f⟩

end Repeats

namespace Compiled

variable {c : Compiled V P} {stream : Stream}

/-- Expands a state even if it is being expanded at the position. -/
def visitUnguarded (c : Compiled V P) (stream : Stream) :
    Nat → Nat → String → Run → Outcome V
  | 0, depth, state, r =>
    (.error (.recursionLimit r.cursor c.options.maxDepth),
      r.record stream depth state .recursionLimit)
  | levels + 1, depth, state, r =>
    c.expand stream depth (c.visitUnguarded stream levels (depth + 1)) state r

/-- Parses a stream without the check for progress. -/
def parseUnguarded (c : Compiled V P) (stream : Stream) : Outcome V :=
  (c.visitUnguarded stream (c.options.maxDepth + 1) 0 Grammar.startName .initial).andThen
    fun v r =>
      if c.options.requireEnd && (r.lookahead stream).isSome then
        unexpected stream 0 Grammar.startName .endOfInput r
      else (.ok v, r)

theorem visitUnguarded_eqUnless (wf : c.WellFormed) (stream : Stream) (levels depth : Nat)
    (state : String) (r : Run) :
    EqUnless ParseError.IsNoProgress (c.visitState stream levels depth state r)
      (c.visitUnguarded stream levels depth state r) := by
  induction levels generalizing depth state r with
  | zero => exact .refl _ _
  | succ levels ih =>
      rw [visitState_succ, visitUnguarded]
      split
      · exact .inl ⟨_, rfl, _, _, rfl⟩
      · exact expand_eqUnless wf (ih (depth + 1)) depth state r

section Repetition

variable {limit depth depth' : Nat} {r r' s : Run}

theorem visitToken_repeats {name : String} {v : V}
    (h : c.visitToken stream depth name r = (.ok v, r')) (here : s.cursor = r.cursor) :
    Repeats limit r.cursor r'.cursor v (c.visitToken stream depth' name s) := by
  have ahead : s.lookahead stream = r.lookahead stream := by
    rw [Run.lookahead, Run.lookahead, here]
  obtain ⟨t, next, rfl, rfl, rfl⟩ := visitToken_eq_ok h
  rw [visitToken_ahead (ahead.trans next)]
  exact ⟨Nat.le_succ r.cursor, .inl ⟨_, congrArg (· + 1) here, rfl⟩⟩

theorem visitSymbols_repeats {visit visit' : String → Run → Outcome V}
    {symbols : List Symbol} {vs : List V}
    (h : c.visitSymbols stream depth visit symbols r = (.ok vs, r'))
    (here : s.cursor = r.cursor)
    (inside : ∀ {name r r' s v}, visit name r = (.ok v, r') → s.cursor = r.cursor →
      Repeats limit r.cursor r'.cursor v (visit' name s)) :
    Repeats limit r.cursor r'.cursor vs (c.visitSymbols stream depth' visit' symbols s) := by
  induction symbols generalizing r s vs with
  | nil =>
      cases h
      exact .ok here
  | cons y more ih =>
      cases y with
      | epsilon => exact ih h here
      | token name =>
          obtain ⟨v, r₁, first, h⟩ := Outcome.andThen_eq_ok h
          obtain ⟨ws, r₂, rest, h⟩ := Outcome.andThen_eq_ok h
          cases h
          exact (visitToken_repeats first here).andThen fun s hs =>
            (ih rest hs).andThen fun s hs => .ok hs
      | state name =>
          obtain ⟨v, r₁, first, h⟩ := Outcome.andThen_eq_ok h
          obtain ⟨ws, r₂, rest, h⟩ := Outcome.andThen_eq_ok h
          cases h
          exact (inside first here).andThen fun s hs =>
            (ih rest hs).andThen fun s hs => .ok hs

/-- A visit that gave a value gives it again from the same position, wherever it is
nested, or runs out of levels. -/
theorem visitUnguarded_repeats (wf : c.WellFormed) {levels : Nat} {state : String} {v : V}
    (h : c.visitState stream levels depth state r = (.ok v, r')) (here : s.cursor = r.cursor)
    (levels' : Nat) :
    Repeats c.options.maxDepth r.cursor r'.cursor v
      (c.visitUnguarded stream levels' depth' state s) := by
  induction levels generalizing depth state r r' s v levels' depth' with
  | zero => cases h
  | succ levels ih =>
      cases levels' with
      | zero =>
          obtain ⟨t, -, -, reads⟩ := visitState_sound wf h
          have forth : r.cursor ≤ r'.cursor := by
            rw [reads.cursor]
            exact Nat.le_add_right _ _
          exact ⟨forth, .inr ⟨r.cursor, Nat.le_refl _, forth, by rw [visitUnguarded, here]⟩⟩
      | succ levels' =>
          rcases visitState_cases wf stream levels depth state r with
            busy | ⟨-, refused⟩ | ⟨index, viaFollow, a, selected, rule, expanded⟩
          · rw [busy] at h
            cases h
          · rw [refused, unexpected] at h
            cases h
          · rw [expanded] at h
            obtain ⟨vs, after, read, h⟩ := Outcome.andThen_eq_ok h
            obtain ⟨value, rfl⟩ := Prod.mk.inj h
            rw [← nextTerminal_congr here] at selected
            rw [visitUnguarded, expand_selected wf selected rule]
            have again : Repeats c.options.maxDepth
                (r.enter stream depth state a viaFollow).cursor after.cursor vs
                (c.visitSymbols stream (depth' + 1)
                  (c.visitUnguarded stream levels' (depth' + 1)) a.symbols
                  (s.enter stream depth' state a viaFollow)) :=
              visitSymbols_repeats read here fun hv hs => ih hv hs levels'
            refine again.andThen fun s hs => ?_
            rw [value]
            exact .ok hs

end Repetition

section Loop

variable {levels depth p : Nat} {state name : String} {r r' : Run}

/-- What comes to a state that comes back to itself, all at one position, runs out of
levels there, however many there are. -/
theorem visitUnguarded_of_cycle (wf : c.WellFormed) {e e' : String × Nat}
    (cycle : Relation.TransGen (c.Calls stream) e' e')
    (path : Relation.TransGen (c.Calls stream) e e') (same : e.2 = e'.2)
    (here : r.cursor = e.2) :
    (c.visitUnguarded stream levels depth e.1 r).1 =
      .error (.recursionLimit e'.2 c.options.maxDepth) := by
  induction levels generalizing e depth r with
  | zero => rw [visitUnguarded, here, same]
  | succ levels ih =>
      obtain ⟨e₁, call, back⟩ := Relation.TransGen.head'_iff.mp path
      have path₁ : Relation.TransGen (c.Calls stream) e₁ e' := .trans_right back cycle
      have same₁ : e₁.2 = e'.2 := by
        have forth := call.position_le wf
        have further := position_le_of_calls wf path₁
        omega
      cases call with
      | @intro state name index viaFollow a before behind _ _ q q' vs selected rule split read =>
          rw [← nextTerminal_congr here] at selected
          rw [visitUnguarded]
          refine expand_error wf selected rule ?_
          rw [split]
          have again : Repeats c.options.maxDepth q.cursor q'.cursor vs
              (c.visitSymbols stream (depth + 1) (c.visitUnguarded stream levels (depth + 1)) before
                (r.enter stream depth state a viaFollow)) :=
            visitSymbols_repeats read here fun hv hs => visitUnguarded_repeats wf hv hs levels
          -- the next call is reached at the same position, or the levels end in front of it
          rcases again.outcome with ⟨s, hs, done⟩ | ⟨position, above, below, failed⟩
          · exact visitSymbols_failed done (ih path₁ same₁ hs)
          · obtain rfl : position = e'.2 := by omega
            rw [visitSymbols_append]
            exact Outcome.andThen_fst_error failed _

theorem visitUnguarded_of_noProgress (wf : c.WellFormed)
    (cycle : Relation.TransGen (c.Calls stream) (name, p) (name, p))
    (h : c.visitState stream levels depth state r = (.error (.noProgress name p), r')) :
    (c.visitUnguarded stream levels depth state r).1 =
      .error (.recursionLimit p c.options.maxDepth) := by
  induction levels generalizing depth state r with
  | zero => cases h
  | succ levels ih =>
      rw [visitState_succ] at h
      split at h
      · cases h
        exact visitUnguarded_of_cycle wf cycle cycle rfl rfl
      · obtain ⟨index, viaFollow, a, before, next, behind, vs, r₁, selected, rule, split, read,
          stuck⟩ := expand_noProgress wf h
        -- in front of the state that fails nothing has been refused
        have visited := visitSymbols_eqUnless c stream
          (visitUnguarded_eqUnless wf stream levels (depth + 1)) (depth + 1) before
          (r.enter stream depth state a viaFollow)
        rw [read] at visited
        rw [visitUnguarded]
        refine expand_error wf selected rule ?_
        rw [split]
        exact visitSymbols_failed (visited.eq nofun) (ih stuck)

end Loop

/-- The check for progress refuses no parse that would have ended: without it the outcome
is the same, or the levels are used up at the position where it was refused, whatever
higher limit there is. -/
theorem parseUnguarded_exact {patterns : String → Option Text.Matcher}
    {evaluator : Action.Evaluator V P} {options : Options} {d : Grammar.Declarations}
    (h : ofDeclarations patterns evaluator options d = .ok c) (stream : Stream) :
    ((∀ state position, (c.parseStream stream).1 ≠ .error (.noProgress state position)) →
      c.parseUnguarded stream = c.parseStream stream) ∧
    ∀ state position, (c.parseStream stream).1 = .error (.noProgress state position) →
      ∀ limit, options.maxDepth ≤ limit →
        ((c.withMaxDepth limit).parseUnguarded stream).1 =
          .error (.recursionLimit position limit) := by
  obtain ⟨wf, rfl, rfl, -⟩ := ofDeclarations_ok h
  refine ⟨fun progress => ?_, fun state position stuck limit higher => ?_⟩
  · have same : EqUnless ParseError.IsNoProgress (c.parseStream stream)
        (c.parseUnguarded stream) :=
      (visitUnguarded_eqUnless wf stream _ 0 Grammar.startName .initial).andThen
        fun _ _ => .refl _ _
    refine same.eq fun e he => ?_
    rintro ⟨state, position, rfl⟩
    exact progress state position he
  · have wf' := wf.withMaxDepth limit
    have stuck' : ((c.withMaxDepth limit).parseStream stream).1 =
        .error (.noProgress state position) := by
      rw [(parseStream_eqUnless wf higher stream).eq, stuck]
      rintro e he ⟨_, rfl⟩
      rw [stuck] at he
      cases he
    obtain ⟨r, failed⟩ := parseStream_noProgress stuck'
    exact Outcome.andThen_fst_error
      (visitUnguarded_of_noProgress wf' (calls_of_parseStream wf' stuck') failed) _

/-- A state that starts with itself behind one that vanishes without an empty rule. A
"b" ahead is for the rule that does so, which is declared before the one of "b" alone. -/
def hiddenRecursion : Grammar.Declarations where
  tokens := [⟨"a", "a"⟩, ⟨"b", "b"⟩, ⟨"c", "c"⟩]
  rules := [.ofWords "s" "a" "x", .ofWords "s" "W s a" "y", .ofWords "s" "b" "z",
    .ofWords "W" "V" "v", .ofWords "V" "c" "w", .ofWords "V" "EPS" "u"]

theorem parseUnguarded_exact_hiddenRecursion :
    ∃ c, ofDeclarations Pattern.matcher? Action.outline .standard hiddenRecursion = .ok c ∧
      (∃ stream, c.tokenize "caa" = .ok stream ∧
        (c.parseStream stream).1 = .ok "y(v(w(\"c\")),x(\"a\"),\"a\")" ∧
        c.parseUnguarded stream = c.parseStream stream) ∧
      ∃ stream, c.tokenize "b" = .ok stream ∧
        (c.parseStream stream).1 = .error (.noProgress "s" 0) ∧
        ∀ limit, 512 ≤ limit →
          ((c.withMaxDepth limit).parseUnguarded stream).1 = .error (.recursionLimit 0 limit) := by
  obtain ⟨c, compiled, tokens, parsed, tokens', stuck⟩ :
      ∃ c, ofDeclarations Pattern.matcher? Action.outline .standard hiddenRecursion = .ok c ∧
        c.tokenize "caa" = .ok ⟨#[⟨"c", "c", 0⟩, ⟨"a", "a", 1⟩, ⟨"a", "a", 2⟩], 3⟩ ∧
        (c.parseStream ⟨#[⟨"c", "c", 0⟩, ⟨"a", "a", 1⟩, ⟨"a", "a", 2⟩], 3⟩).1 =
          .ok "y(v(w(\"c\")),x(\"a\"),\"a\")" ∧
        c.tokenize "b" = .ok ⟨#[⟨"b", "b", 0⟩], 1⟩ ∧
        (c.parseStream ⟨#[⟨"b", "b", 0⟩], 1⟩).1 = .error (.noProgress "s" 0) :=
    ⟨_, rfl, by with_unfolding_all rfl, by with_unfolding_all rfl, by with_unfolding_all rfl,
      by with_unfolding_all rfl⟩
  refine ⟨c, compiled, ⟨_, tokens, parsed, ?_⟩, _, tokens', stuck, ?_⟩
  · refine (parseUnguarded_exact compiled _).1 fun state position => ?_
    rw [parsed]
    nofun
  · exact (parseUnguarded_exact compiled _).2 "s" 0 stuck

end Compiled
end PredictiveParsing.Parsing
