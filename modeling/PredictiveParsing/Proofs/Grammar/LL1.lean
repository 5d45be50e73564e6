import PredictiveParsing.Proofs.Grammar.First

/-!
Grammars without conflicts. One terminal of lookahead tells the rules of a state apart,
and tells whether the state is to vanish.
-/
namespace PredictiveParsing.Grammar

/-- The rules of a state share no token that they can begin with, at most one of them
vanishes, and what a state that vanishes can begin with does not follow it. -/
structure IsLL1 (g : Grammar) (first follow : SetTable) : Prop where
  disjoint : ∀ p ∈ g.productions, p.alternatives.Pairwise fun a b =>
    ∀ x ∈ (firstOfSequence first a.symbols).1, x ≠ .epsilon →
      x ∉ (firstOfSequence first b.symbols).1
  vanishing : ∀ p ∈ g.productions, p.alternatives.Pairwise fun a b =>
    ¬((firstOfSequence first a.symbols).2 = true ∧ (firstOfSequence first b.symbols).2 = true)
  apart : ∀ p ∈ g.productions, first.holds p.lhs .epsilon = true →
    ∀ x ∈ (first.get? p.lhs).getD [], x ≠ .epsilon → ¬follow.holds p.lhs x = true

namespace IsLL1

variable {g : Grammar} {first follow : SetTable}

private theorem not_shared (ll1 : g.IsLL1 first follow) {p : Production}
    (hp : p ∈ g.productions) {i j : Nat} {a b : Alternative} (hij : i < j)
    (ha : p.alternatives[i]? = some a) (hb : p.alternatives[j]? = some b) {x : Terminal}
    (hx : x ∈ (firstOfSequence first a.symbols).1) :
    x ∉ (firstOfSequence first b.symbols).1 := by
  obtain ⟨hi, rfl⟩ := List.getElem?_eq_some_iff.mp ha
  obtain ⟨hj, rfl⟩ := List.getElem?_eq_some_iff.mp hb
  intro hy
  by_cases he : x = .epsilon
  · subst he
    have apart := List.pairwise_iff_getElem.mp (ll1.vanishing p hp) i j hi hj hij
    exact apart ⟨(firstOfSequence_nullable _).mpr hx, (firstOfSequence_nullable _).mpr hy⟩
  · have apart := List.pairwise_iff_getElem.mp (ll1.disjoint p hp) i j hi hj hij
    exact apart x hx he hy

/-- A terminal is in the FIRST set of one rule of a state at most. -/
theorem index_eq (ll1 : g.IsLL1 first follow) {state : String} {i j : Nat} {a b : Alternative}
    (ha : g.alternative? state i = some a) (hb : g.alternative? state j = some b) {x : Terminal}
    (hx : x ∈ (firstOfSequence first a.symbols).1)
    (hy : x ∈ (firstOfSequence first b.symbols).1) : i = j := by
  obtain ⟨p, hp, ha⟩ := Option.bind_eq_some_iff.mp ha
  obtain ⟨q, hq, hb⟩ := Option.bind_eq_some_iff.mp hb
  obtain rfl : p = q := Option.some.inj (hp.symm.trans hq)
  have declared : p ∈ g.productions := List.mem_of_find?_eq_some hp
  rcases Nat.lt_trichotomy i j with hij | hij | hij
  · exact absurd hy (ll1.not_shared declared hij ha hb hx)
  · exact hij
  · exact absurd hx (ll1.not_shared declared hij hb ha hy)

theorem not_first_of_follow (ll1 : g.IsLL1 first follow) {state token : String}
    (declared : state ∈ g.states) (nullable : first.holds state .epsilon = true)
    (follows : follow.holds state (.token token) = true) :
    ¬first.holds state (.token token) = true := by
  intro begins
  obtain ⟨p, hp, rfl⟩ := List.mem_map.mp declared
  refine ll1.apart p hp nullable (.token token) ?_ (by simp) follows
  rw [SetTable.holds] at begins
  cases hg : first.get? p.lhs with
  | none => simp [hg] at begins
  | some s => simpa [hg] using begins

end IsLL1

end PredictiveParsing.Grammar
