import PredictiveParsing.Proofs.Grammar.LeftRecursion
import PredictiveParsing.Proofs.Parsing.Lookahead
import PredictiveParsing.Proofs.Parsing.Nesting

/-!
The check for left recursion makes sure of progress. Where every state that can vanish has
an empty rule, the states that a visit comes to at its own position are those that the
state can start with, and the check has found no cycle among these.
-/
namespace PredictiveParsing.Parsing

open Grammar (Symbol Terminal)
open PredictiveParsing.Parsing.Tree (leavesOf)

variable {V P : Type}

namespace Compiled

variable {c : Compiled V P} {stream : Stream}

/-- Every state that can vanish has an empty rule of its own. -/
def VanishesByRule (c : Compiled V P) : Prop :=
  ∀ state ∈ c.grammar.states,
    c.first.holds state .epsilon = true → c.grammar.hasEpsilonRule state = true

/-- A rule can start with a state if nothing is read in front of it. -/
theorem mem_leadingStates (wf : c.WellFormed) (vanishing : c.VanishesByRule)
    {before behind : List Symbol} {ts : List Tree} {name : String}
    (forest : IsForest c.grammar before ts) (nothing : leavesOf ts = []) :
    name ∈ c.grammar.leadingStates (before ++ .state name :: behind) := by
  induction forest with
  | nil =>
      rw [List.nil_append, Grammar.leadingStates]
      split
      · exact List.mem_cons_self
      · exact List.mem_singleton_self name
  | epsilon _ ih => exact ih nothing
  | token t _ _ => cases nothing
  | @state other index a more ks ts rule children _ _ ih =>
      obtain ⟨inside, outside⟩ := List.append_eq_nil_iff.mp nothing
      have nullable := wf.first_eq ▸ children.mem_first_of_nil wf.grammar inside
      have declared := (Grammar.hasRule_of_alternative? rule).state_mem
      have vanishes := vanishing other declared (holds_of_alternative? wf rule nullable)
      rw [List.cons_append, Grammar.leadingStates, if_pos vanishes]
      exact List.mem_cons_of_mem other (ih outside)

theorem Calls.mem_leftCorners (wf : c.WellFormed) (vanishing : c.VanishesByRule)
    {e e' : String × Nat} (h : c.Calls stream e e') (same : e'.2 = e.2) :
    e'.1 ∈ c.grammar.leftCorners e.1 := by
  obtain ⟨a, before, behind, ts, rule, split, forest, position⟩ := h.exists_forest wf
  have nothing : leavesOf ts = [] := List.length_eq_zero_iff.mp (by omega)
  refine (Grammar.mem_leftCorners wf.grammar).mpr ⟨a, rule, ?_⟩
  rw [split]
  exact mem_leadingStates wf vanishing forest nothing

theorem leftCorners_of_calls (wf : c.WellFormed) (vanishing : c.VanishesByRule)
    {e e' : String × Nat} (h : Relation.TransGen (c.Calls stream) e e') (same : e'.2 = e.2) :
    Relation.TransGen (fun v w => w ∈ c.grammar.leftCorners v) e.1 e'.1 := by
  induction h with
  | single call => exact .single (call.mem_leftCorners wf vanishing same)
  | tail path call ih =>
      have forth := position_le_of_calls wf path
      have step := call.position_le wf
      exact .tail (ih (by omega)) (call.mem_leftCorners wf vanishing (by omega))

/-- Where every state that can vanish has an empty rule, no input is refused for want of
progress. The grammar may have conflicts and the options are any. -/
theorem parse_ne_noProgress {patterns : String → Option Text.Matcher}
    {evaluator : Action.Evaluator V P} {options : Options} {d : Grammar.Declarations}
    (h : ofDeclarations patterns evaluator options d = .ok c) (vanishing : c.VanishesByRule)
    (input state : String) (position : Nat) :
    c.parse input ≠ .error (.noProgress state position) := by
  obtain ⟨wf, -⟩ := ofDeclarations_ok h
  intro stuck
  rw [parse] at stuck
  cases ht : c.tokenize input with
  | error e =>
      rw [ht] at stuck
      cases stuck
      obtain ⟨_, _, he⟩ := tokenize_error ht
      cases he
  | ok stream =>
      rw [ht] at stuck
      have cycle := leftCorners_of_calls wf vanishing (calls_of_parseStream wf stuck) rfl
      exact Grammar.no_leftCorner_cycle wf.grammar (checkLeftRecursion_of_ofDeclarations h) state
        cycle

/-- An optional word in front of a state that starts with one too. -/
def optionals : Grammar.Declarations where
  tokens := [⟨"a", "a"⟩, ⟨"b", "b"⟩]
  rules := [.ofWords "s" "A B A" "x", .ofWords "A" "EPS" "y", .ofWords "A" "a" "z",
    .ofWords "B" "A b" "w"]

theorem parse_ne_noProgress_optionals :
    ∃ c, ofDeclarations Pattern.matcher? Action.outline .standard optionals = .ok c ∧
      c.VanishesByRule ∧ c.first.holds "A" .epsilon = true ∧
      c.parse "aba" = .ok "x(z(\"a\"),w(y(),\"b\"),z(\"a\"))" ∧
      ∀ input state position, c.parse input ≠ .error (.noProgress state position) := by
  obtain ⟨c, compiled, vanishing, nullable, parsed⟩ :
      ∃ c, ofDeclarations Pattern.matcher? Action.outline .standard optionals = .ok c ∧
        c.VanishesByRule ∧ c.first.holds "A" .epsilon = true ∧
        c.parse "aba" = .ok "x(z(\"a\"),w(y(),\"b\"),z(\"a\"))" :=
    ⟨_, rfl, by simp only [VanishesByRule]; decide +kernel, by decide +kernel,
      by with_unfolding_all rfl⟩
  exact ⟨c, compiled, vanishing, nullable, parsed, parse_ne_noProgress compiled vanishing⟩

end Compiled
end PredictiveParsing.Parsing
