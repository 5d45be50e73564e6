import PredictiveParsing.Proofs.Parsing.Soundness

/-!
A parse that fails has visited a derivation tree up to some place. What it read is what the
leaves in front of that place spell, and its steps list the tree up to there. One more step
shows the failure, unless an action has failed.
-/
namespace PredictiveParsing.Parsing

open Grammar (Alternative Symbol)
open PredictiveParsing.Parsing.Tree (leavesOf)

variable {V P : Type}

/-- The trees derive the symbols in order up to a place, which is between two trees or inside
the last one. -/
inductive IsCutForest (g : Grammar) : List Symbol → List Tree → Prop where
  | cut (symbols : List Symbol) : IsCutForest g symbols []
  | epsilon {more : List Symbol} {ts : List Tree} (rest : IsCutForest g more ts) :
      IsCutForest g (.epsilon :: more) ts
  | token {more : List Symbol} {ts : List Tree} (t : Token) (rest : IsCutForest g more ts) :
      IsCutForest g (.token t.name :: more) (.leaf t :: ts)
  | state {name : String} {index : Nat} {a : Alternative} {more : List Symbol}
      {ks ts : List Tree} (rule : g.alternative? name index = some a)
      (children : IsForest g a.symbols ks) (rest : IsCutForest g more ts) :
      IsCutForest g (.state name :: more) (.node name index a ks :: ts)
  | inside {name : String} {index : Nat} {a : Alternative} {ks : List Tree} (more : List Symbol)
      (rule : g.alternative? name index = some a) (children : IsCutForest g a.symbols ks) :
      IsCutForest g (.state name :: more) [.node name index a ks]

variable {g : Grammar}

theorem IsForest.append_cut {u v : List Symbol} {ts us : List Tree} (h : IsForest g u ts)
    (k : IsCutForest g v us) : IsCutForest g (u ++ v) (ts ++ us) := by
  induction h with
  | nil => exact k
  | epsilon _ ih => exact .epsilon ih
  | token t _ ih => exact .token t ih
  | state rule children _ _ ih => exact .state rule children ih

theorem IsForest.cut {symbols : List Symbol} {ts : List Tree} (h : IsForest g symbols ts) :
    IsCutForest g symbols ts := by
  simpa using h.append_cut (.cut [])

namespace IsCutForest

theorem append {u : List Symbol} {ts : List Tree} (h : IsCutForest g u ts) (v : List Symbol) :
    IsCutForest g (u ++ v) ts := by
  induction h with
  | cut u => exact .cut (u ++ v)
  | epsilon _ ih => exact .epsilon ih
  | token t _ ih => exact .token t ih
  | state rule children _ ih => exact .state rule children ih
  | inside more rule children _ => exact .inside (more ++ v) rule children

theorem derives {symbols : List Symbol} {ts : List Tree} (h : IsCutForest g symbols ts) :
    ∃ rest, g.Derives symbols (kinds (leavesOf ts) ++ rest) := by
  induction h with
  | cut symbols => exact ⟨symbols, .refl symbols⟩
  | @epsilon more _ _ ih =>
      obtain ⟨rest, tail⟩ := ih
      exact ⟨rest, (Grammar.derives_epsilon more).trans tail⟩
  | token t _ ih =>
      obtain ⟨rest, tail⟩ := ih
      exact ⟨rest, tail.cons (.token t.name)⟩
  | @state name index a more ks ts rule children _ ih =>
      obtain ⟨rest, tail⟩ := ih
      have head : IsForest g [.state name] [.node name index a ks] := .state rule children .nil
      refine ⟨rest, ?_⟩
      simpa [kinds, leavesOf] using head.derives.append tail
  | @inside name index a ks more rule _ ih =>
      obtain ⟨rest, children⟩ := ih
      have head := (Grammar.hasRule_of_alternative? rule).derives.trans children
      refine ⟨rest ++ more, ?_⟩
      simpa [kinds, leavesOf, Tree.leaves] using head.append_right more

end IsCutForest

/-- What is recorded of a failure at a position: one step, with the terminal there, or none if
an action has failed. -/
inductive ClosedBy (stream : Stream) (position : Nat) : ParseError → List Step → Prop where
  | unexpected (depth : Nat) (symbol : String) (expected : Expectation) :
      ClosedBy stream position
        (.unexpected position (stream.offsetAt position) stream.tokens[position]? expected)
        [⟨depth, symbol, position, stream.tokens[position]?, .unexpected expected⟩]
  | recursionLimit (depth : Nat) (state : String) (limit : Nat) :
      ClosedBy stream position (.recursionLimit position limit)
        [⟨depth, state, position, stream.tokens[position]?, .recursionLimit⟩]
  | noProgress (depth : Nat) (state : String) :
      ClosedBy stream position (.noProgress state position)
        [⟨depth, state, position, stream.tokens[position]?, .noProgress⟩]
  | action (state : String) (cause : Action.ActionError) :
      ClosedBy stream position (.action state cause) []

namespace Compiled

variable {c : Compiled V P} {stream : Stream}

/-- The visit of the symbols fails behind these trees, which it has listed. -/
structure CutOff (c : Compiled V P) (stream : Stream) (depth : Nat) (symbols : List Symbol)
    (r : Run) (ts : List Tree) (e : ParseError) (r' : Run) : Prop where
  forest : IsCutForest c.grammar symbols ts
  passes : Passes stream r (leavesOf ts) r'
  steps : ∃ closing, ClosedBy stream r'.cursor e closing ∧
    r'.steps.toList = r.steps.toList ++ c.listingOf stream depth r.cursor ts ++ closing

section Visit

variable {levels depth : Nat} {state name : String} {symbols : List Symbol} {r r' : Run}
  {e : ParseError}

/-- A failure at once, with a step of its own. -/
theorem CutOff.here {depth' : Nat} {symbol : String} {action : StepAction}
    (symbols : List Symbol) (cursor : r'.cursor = r.cursor) (steps : r'.steps = r.steps)
    (closed : ClosedBy stream r'.cursor e
      [⟨depth', symbol, r'.cursor, r'.lookahead stream, action⟩]) :
    c.CutOff stream depth symbols r [] e (r'.record stream depth' symbol action) := by
  refine ⟨.cut symbols, .of_cursor_eq cursor, _, closed, ?_⟩
  rw [Run.record_steps, steps, listingOf, List.append_nil]

theorem CutOff.behind {before behind : List Symbol} {y : Symbol} {ts us : List Tree}
    {vs : List V} {r₁ : Run} (listed : c.Listed stream depth before r ts vs r₁)
    (h : c.CutOff stream depth [y] r₁ us e r') :
    c.CutOff stream depth (before ++ y :: behind) r (ts ++ us) e r' := by
  obtain ⟨closing, closed, steps⟩ := h.steps
  refine ⟨listed.forest.append_cut (h.forest.append behind), ?_, closing, closed, ?_⟩
  · rw [Tree.leavesOf_append]
    exact listed.reads.passes.trans h.passes
  · simp only [steps, listed.steps, listed.reads.cursor, listingOf_append, List.append_assoc]

theorem visitToken_cutOff (h : c.visitToken stream depth name r = (.error e, r')) :
    c.CutOff stream depth [.token name] r [] e r' := by
  cases visitToken_eq_error h
  exact .here _ rfl rfl (.unexpected ..)

/-- Visits of symbols are cut off where those of their states are. -/
theorem visitSymbols_cutOff {visit : String → Run → Outcome V}
    (listed : ∀ {name r v r'}, visit name r = (.ok v, r') →
      ∃ t, c.Listed stream depth [.state name] r [t] [v] r')
    (inside : ∀ {name r e r'}, visit name r = (.error e, r') →
      ∃ ts, c.CutOff stream depth [.state name] r ts e r')
    (h : c.visitSymbols stream depth visit symbols r = (.error e, r')) :
    ∃ ts, c.CutOff stream depth symbols r ts e r' := by
  obtain ⟨before, y, behind, vs, r₁, rfl, read, failed⟩ := visitSymbols_error h
  obtain ⟨ts, front⟩ := visitSymbols_listed listed read
  cases y with
  | epsilon => cases failed
  | token name =>
      rw [visitSymbols] at failed
      rcases Outcome.andThen_eq_error failed with failed | ⟨_, _, -, failed⟩
      · exact ⟨_, .behind front (visitToken_cutOff failed)⟩
      · cases failed
  | state name =>
      obtain ⟨us, cut⟩ := inside (visitSymbols_state_error.mp failed)
      exact ⟨_, .behind front cut⟩

theorem visitState_cutOff (wf : c.WellFormed)
    (h : c.visitState stream levels depth state r = (.error e, r')) :
    ∃ ts, c.CutOff stream depth [.state state] r ts e r' := by
  induction levels generalizing depth state r r' e with
  | zero =>
      cases h
      exact ⟨[], .here _ rfl rfl (.recursionLimit ..)⟩
  | succ levels ih =>
      rcases visitState_cases wf stream levels depth state r with
        busy | ⟨-, none⟩ | ⟨index, viaFollow, a, selected, rule, expand⟩
      · rw [busy] at h
        cases h
        exact ⟨[], .here _ rfl rfl (.noProgress ..)⟩
      · rw [none, unexpected_eq] at h
        cases h
        exact ⟨[], .here _ rfl rfl (.unexpected ..)⟩
      · rw [expand] at h
        rcases Outcome.andThen_eq_error h with h | ⟨vs, after, read, h⟩
        · obtain ⟨ks, children⟩ := visitSymbols_cutOff (visitState_listed wf) ih h
          obtain ⟨closing, closed, steps⟩ := children.steps
          refine ⟨[.node state index a ks], .inside [] rule children.forest, ?_, closing,
            closed, ?_⟩
          · rw [leavesOf, leavesOf, List.append_nil]
            exact ⟨children.passes.remaining, children.passes.cursor⟩
          · rw [listingOf_singleton, ← enter_listing selected]
            exact steps
        · obtain ⟨ks, children⟩ := visitSymbols_listed (visitState_listed wf) read
          obtain ⟨failed, rfl⟩ := Prod.mk.inj h
          obtain ⟨cause, rfl⟩ := act_error failed
          refine ⟨[.node state index a ks], .state rule children.forest (.cut []), ?_, [],
            .action .., ?_⟩
          · rw [leavesOf, leavesOf, List.append_nil]
            exact children.reads.leave.passes
          · rw [listingOf_singleton, ← enter_listing selected, List.append_nil]
            exact children.steps

end Visit

theorem parseStream_cutOff (wf : c.WellFormed) {e : ParseError}
    (h : (c.parseStream stream).1 = .error e) :
    ∃ ts, c.CutOff stream 0 [.state Grammar.startName] .initial ts e (c.parseStream stream).2 := by
  rcases parseStream_error h with inside | ⟨v, r, read, -, -, behind⟩
  · exact visitState_cutOff wf inside
  · obtain ⟨t, listed⟩ := visitState_listed wf read
    rw [behind, unexpected_eq] at h ⊢
    cases h
    refine ⟨[t], listed.forest.cut, ⟨listed.reads.remaining, listed.reads.cursor⟩, _,
      .unexpected 0 Grammar.startName .endOfInput, ?_⟩
    rw [Run.record_steps, listed.steps]
    rfl

end Compiled
end PredictiveParsing.Parsing
