import PredictiveParsing.Parsing.Trace
import PredictiveParsing.Proofs.Parsing.CutOff
import PredictiveParsing.Proofs.Parsing.Prediction
import PredictiveParsing.Proofs.Parsing.Switched

/-!
What the trace of a parse shows: a derivation tree, whole if the parse has a value and cut off
where it fails. A listing takes the tokens one after another and has no failure in it, so the
step of a failure is the only one.
-/
namespace PredictiveParsing.Parsing

open PredictiveParsing.Parsing.Tree (leavesOf)

variable {V P : Type}

def Step.fails (s : Step) : Bool :=
  match s.action with
  | .unexpected _ | .recursionLimit | .noProgress => true
  | .expand .. | .take _ => false

namespace Compiled

variable {c : Compiled V P} {stream : Stream}

mutual

theorem not_fails_of_mem_listing {depth position : Nat} {t : Tree} {s : Step}
    (h : s ∈ c.listing stream depth position t) : s.fails = false := by
  cases t with
  | leaf t =>
      obtain rfl := List.mem_singleton.mp h
      rfl
  | node state index a children =>
      rcases List.mem_cons.mp h with rfl | h
      · rfl
      · exact not_fails_of_mem_listingOf h

theorem not_fails_of_mem_listingOf {depth position : Nat} {ts : List Tree} {s : Step}
    (h : s ∈ c.listingOf stream depth position ts) : s.fails = false := by
  cases ts with
  | nil => cases h
  | cons t ts =>
      rcases List.mem_append.mp h with h | h
      · exact not_fails_of_mem_listing h
      · exact not_fails_of_mem_listingOf h

end

mutual

/-- Each token of a tree is taken at its own position. -/
theorem taken_listing (depth position : Nat) (t : Tree) :
    ((c.listing stream depth position t).filter Step.takes).map (·.position) =
      List.range' position t.leaves.length := by
  cases t with
  | leaf t => rfl
  | node state index a children => exact taken_listingOf (depth + 1) position children

theorem taken_listingOf (depth position : Nat) (ts : List Tree) :
    ((c.listingOf stream depth position ts).filter Step.takes).map (·.position) =
      List.range' position (leavesOf ts).length := by
  cases ts with
  | nil => rfl
  | cons t ts =>
      rw [listingOf, List.filter_append, List.map_append, taken_listing depth position t,
        taken_listingOf depth _ ts, leavesOf, List.length_append, List.range'_append_1]

end

/-- A step names the terminal at its position, and where a state is expanded the rule that is
selected there. -/
structure Shows (c : Compiled V P) (stream : Stream) (s : Step) : Prop where
  lookahead : s.lookaheadName = (stream.terminalAt s.position).name
  expand : ∀ a viaFollow, s.action = .expand a viaFollow →
    (∃ index, c.select? s.symbol (stream.terminalAt s.position) = some (index, viaFollow) ∧
      c.grammar.alternative? s.symbol index = some a) ∧
    s.actionText = s.symbol ++ " -> " ++ a.text ++ (if viaFollow then " (follow)" else "")

section Shown

variable {depth : Nat} {symbol : String} {r : Run}

private theorem lookaheadName_eq (action : StepAction) :
    Step.lookaheadName ⟨depth, symbol, r.cursor, r.lookahead stream, action⟩ =
      (stream.terminalAt r.cursor).name := by
  simp only [Step.lookaheadName, Stream.terminalAt, Run.lookahead]
  cases stream.tokens[r.cursor]? <;> rfl

theorem shows_of_not_expand {action : StepAction}
    (other : ∀ a viaFollow, action ≠ .expand a viaFollow) :
    c.Shows stream ⟨depth, symbol, r.cursor, r.lookahead stream, action⟩ :=
  ⟨lookaheadName_eq action, fun a viaFollow h => absurd h (other a viaFollow)⟩

/-- The outcome goes on from the run by steps that show what is the case. -/
abbrev KeepsShowing (c : Compiled V P) (stream : Stream) {α : Type} (r : Run) (o : Outcome α) :
    Prop :=
  Keeps (fun _ => True) (c.Shows stream) (fun _ => True) r o

theorem unexpected_shows {α : Type} (expected : Expectation) :
    c.KeepsShowing stream r (unexpected stream depth symbol expected r : Outcome α) :=
  .record trivial rfl (shows_of_not_expand (by simp)) trivial

theorem visitToken_shows : c.KeepsShowing stream r (c.visitToken stream depth symbol r) := by
  rcases visitToken_cases c stream depth symbol r with ⟨t, -, -, taken⟩ | failed
  · rw [taken]
    refine ⟨trivial, ⟨[_], Run.take_steps .., fun s hs => ?_⟩, fun _ failed => ?_⟩
    · obtain rfl := List.mem_singleton.mp hs
      exact shows_of_not_expand (by simp)
    · cases failed
  · rw [failed]
    exact unexpected_shows _

theorem visitState_shows (wf : c.WellFormed) (levels : Nat) :
    c.KeepsShowing stream r (c.visitState stream levels depth symbol r) := by
  induction levels generalizing depth symbol r with
  | zero => exact .record trivial rfl (shows_of_not_expand (by simp)) trivial
  | succ levels ih =>
      rcases visitState_cases wf stream levels depth symbol r with
        busy | ⟨-, none⟩ | ⟨index, viaFollow, a, selected, rule, expand⟩
      · rw [busy]
        exact .record trivial rfl (shows_of_not_expand (by simp)) trivial
      · rw [none]
        exact .record trivial rfl (shows_of_not_expand (by simp)) trivial
      · rw [expand]
        refine expand_keeps (visitSymbols_keeps ?_ ?_ trivial) ?_ fun _ => trivial
        · exact fun _ _ _ _ => visitToken_shows
        · exact fun _ _ _ _ => ih
        · refine ⟨lookaheadName_eq _, fun a' viaFollow' h => ?_⟩
          cases h
          exact ⟨⟨index, selected, rule⟩, rfl⟩

theorem parseStream_shows (wf : c.WellFormed) :
    ∀ s ∈ (c.parseStream stream).2.steps.toList, c.Shows stream s := by
  have whole : c.KeepsShowing stream .initial (c.parseStream stream) := by
    apply (visitState_shows wf _).andThen
    intro v r _ _
    split
    · exact unexpected_shows _
    · exact .ok trivial v
  obtain ⟨new, steps, each⟩ := whole.steps
  rw [steps]
  exact each

end Shown

theorem parseStream_lists (wf : c.WellFormed) {v : V} {r : Run}
    (h : c.parseStream stream = (.ok v, r)) :
    ∃ t, IsTree c.grammar Grammar.startName t ∧ t.value c.evaluator = .ok v ∧
      t.leaves <+: stream.tokens.toList ∧ r.steps.toList = c.listing stream 0 0 t := by
  obtain ⟨t, listed⟩ := visitState_listed wf (parseStream_ok h).1
  obtain ⟨tree, value, reads⟩ := listed.tree
  refine ⟨t, tree, value, ?_, ?_⟩
  · rw [reads.passes.eq_take.1]
    exact List.take_prefix _ _
  · rw [listed.steps, listingOf_singleton]
    rfl

/-- The trace of a parse is faithful, and whether it is kept changes nothing. With a value the
trace lists a derivation tree that has the value. With a failure it lists a tree up to where the
parse ends, and then the failure if that is not one of an action. Where the input has no
tokens there are no steps. -/
theorem trace_lists_tree {patterns : String → Option Text.Matcher}
    {evaluator : Action.Evaluator V P} {options : Options} {d : Grammar.Declarations}
    (h : ofDeclarations patterns evaluator options d = .ok c) (input : String) :
    ((c.parseWithTrace input).1 = c.parse input ∧
      Switched.parse c true input = c.parseWithTrace input ∧
      Switched.parse c false input = (c.parse input, [])) ∧
    (∀ v, c.parse input = .ok v → ∃ stream t, c.tokenize input = .ok stream ∧
      IsTree c.grammar Grammar.startName t ∧ t.value evaluator = .ok v ∧
      t.leaves <+: stream.tokens.toList ∧
      (c.parseWithTrace input).2 = c.listing stream 0 0 t ∧
      ((c.parseWithTrace input).2.filter Step.takes).map (·.position) =
        List.range t.leaves.length) ∧
    (∀ e, c.parse input = .error e →
      ((∃ offset found, e = .noToken offset found) ∧ (c.parseWithTrace input).2 = []) ∨
      ∃ stream ts position closing, c.tokenize input = .ok stream ∧
        IsCutForest c.grammar [.state Grammar.startName] ts ∧
        position ≤ stream.tokens.size ∧ leavesOf ts = stream.tokens.toList.take position ∧
        ClosedBy stream position e closing ∧
        (c.parseWithTrace input).2 = c.listingOf stream 0 0 ts ++ closing ∧
        ∀ s ∈ c.listingOf stream 0 0 ts, s.fails = false) ∧
    ∀ stream, c.tokenize input = .ok stream → ∀ s ∈ (c.parseWithTrace input).2,
      c.Shows stream s := by
  obtain ⟨wf, rfl, -⟩ := ofDeclarations_ok h
  have switched := Switched.parse_kept c input
  cases tokens : c.tokenize input with
  | error e =>
      simp only [parse, parseWithTrace, tokens] at switched ⊢
      refine ⟨⟨trivial, switched⟩, fun v parsed => ?_, fun e' failed => .inl ⟨?_, trivial⟩,
        fun stream read => ?_⟩
      · cases parsed
      · cases failed
        exact tokenize_error tokens
      · cases read
  | ok stream =>
      simp only [parse, parseWithTrace, tokens] at switched ⊢
      refine ⟨⟨trivial, switched⟩, fun v parsed => ?_, fun e failed => ?_, ?_⟩
      · obtain ⟨t, tree, value, leaves, steps⟩ := parseStream_lists wf (Prod.ext parsed rfl)
        refine ⟨stream, t, rfl, tree, value, leaves, steps, ?_⟩
        rw [steps, taken_listing, List.range_eq_range']
      · obtain ⟨ts, cut⟩ := parseStream_cutOff wf failed
        obtain ⟨leaves, within⟩ := cut.passes.eq_take
        obtain ⟨closing, closed, steps⟩ := cut.steps
        exact .inr ⟨stream, ts, _, closing, rfl, cut.forest, within, leaves, closed, steps,
          fun s hs => not_fails_of_mem_listingOf hs⟩
      · rintro _ ⟨⟩
        exact parseStream_shows wf

theorem trace_lists_tree_repetition :
    ∃ c, ofDeclarations Pattern.matcher? Action.outline .standard repetition = .ok c ∧
      (∃ stream t, c.tokenize "ab" = .ok stream ∧ IsTree c.grammar Grammar.startName t ∧
        t.value Action.outline = .ok "x(y(\"a\",z()),\"b\")" ∧
        (c.parseWithTrace "ab").2 = c.listing stream 0 0 t) ∧
      (c.parseWithTrace "ab").2.map (fun s => (s.depth, s.symbol, s.position, s.vanishes)) =
        [(0, "s", 0, false), (1, "A", 0, false), (2, "a", 0, false), (2, "A", 1, true),
          (1, "b", 1, false)] ∧
      ∃ stream ts depth symbol, c.tokenize "aa" = .ok stream ∧
        IsCutForest c.grammar [.state Grammar.startName] ts ∧
        leavesOf ts = stream.tokens.toList ∧
        (c.parseWithTrace "aa").2 = c.listingOf stream 0 0 ts ++
          [⟨depth, symbol, 2, none, .unexpected (.names ["a", "b"])⟩] := by
  obtain ⟨c, compiled, parsed, shown, tokens, failed⟩ :
      ∃ c, ofDeclarations Pattern.matcher? Action.outline .standard repetition = .ok c ∧
        c.parse "ab" = .ok "x(y(\"a\",z()),\"b\")" ∧
        (c.parseWithTrace "ab").2.map (fun s => (s.depth, s.symbol, s.position, s.vanishes)) =
          [(0, "s", 0, false), (1, "A", 0, false), (2, "a", 0, false), (2, "A", 1, true),
            (1, "b", 1, false)] ∧
        c.tokenize "aa" = .ok ⟨#[⟨"a", "a", 0⟩, ⟨"a", "a", 1⟩], 2⟩ ∧
        c.parse "aa" = .error (.unexpected 2 2 none (.names ["a", "b"])) :=
    ⟨_, rfl, by with_unfolding_all rfl, by with_unfolding_all rfl, by with_unfolding_all rfl,
      by with_unfolding_all rfl⟩
  obtain ⟨-, whole, -, -⟩ := trace_lists_tree compiled "ab"
  obtain ⟨stream, t, ht, tree, value, -, steps, -⟩ := whole _ parsed
  obtain ⟨-, -, cut, -⟩ := trace_lists_tree compiled "aa"
  refine ⟨c, compiled, ⟨stream, t, ht, tree, value, steps⟩, shown, ?_⟩
  rcases cut _ failed with ⟨⟨_, _, other⟩, -⟩ |
    ⟨stream', ts, position, closing, ht', forest, -, leaves, closed, steps', -⟩
  · cases other
  · cases tokens.symm.trans ht'
    cases closed with
    | unexpected depth symbol expected =>
        exact ⟨_, ts, depth, symbol, tokens, forest, leaves, steps'⟩

end Compiled
end PredictiveParsing.Parsing
