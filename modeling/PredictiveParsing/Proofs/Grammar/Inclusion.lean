import PredictiveParsing.Proofs.Grammar.Follow

/-!
A grammar inside another one. What the rules of the one derive, the same rules of the other
derive as well, so that terminals begin and succeed there what they do here.
-/
namespace PredictiveParsing.Grammar

/-- Every state and every rule of the grammar is one of the other grammar. -/
structure IncludedIn (g g' : Grammar) : Prop where
  state_mem : ∀ {state}, state ∈ g.states → state ∈ g'.states
  hasRule : ∀ {state a}, g.HasRule state a → g'.HasRule state a

namespace IncludedIn

variable {g g' : Grammar}

theorem rewrites (h : g.IncludedIn g') {u v : List Symbol} (step : g.Rewrites u v) :
    g'.Rewrites u v := by
  induction step with
  | expand rule rest => exact .expand (h.hasRule rule) rest
  | vanish rest => exact .vanish rest
  | cons x _ ih => exact .cons x ih

theorem derives (h : g.IncludedIn g') {u v : List Symbol} (derives : g.Derives u v) :
    g'.Derives u v :=
  Relation.ReflTransGen.mono (fun _ _ step => h.rewrites step) _ _ derives

theorem begins (h : g.IncludedIn g') {symbols : List Symbol} {x : Terminal}
    (begins : g.Begins symbols x) : g'.Begins symbols x := by
  cases x with
  | token t =>
      obtain ⟨rest, derives⟩ := begins
      exact ⟨rest, h.derives derives⟩
  | epsilon => exact h.derives begins
  | endOfInput => exact begins

theorem succeeds (h : g.IncludedIn g') {state : String} {x : Terminal}
    (succeeds : g.Succeeds state x) : g'.Succeeds state x := by
  cases x with
  | token t =>
      obtain ⟨top, declared, before, after, derives⟩ := succeeds
      exact ⟨top, h.state_mem declared, before, after, h.derives derives⟩
  | epsilon => exact succeeds
  | endOfInput =>
      obtain ⟨before, derives⟩ := succeeds
      exact ⟨before, h.derives derives⟩

end IncludedIn

end PredictiveParsing.Grammar
