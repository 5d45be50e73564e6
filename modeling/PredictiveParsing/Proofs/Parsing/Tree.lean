import PredictiveParsing.Action.Evaluator
import PredictiveParsing.Parsing.Error
import PredictiveParsing.Proofs.Grammar.Derivation

/-!
Derivation trees over the tokens of a stream, and their value: children first from
left to right, then the action of the node. A sequence of tokens is derivable exactly
if it is what the leaves of a tree spell.
-/
namespace PredictiveParsing.Parsing

open Grammar (Alternative Symbol)
open PredictiveParsing.Action (Evaluator)

/-- A tree with tokens at its leaves. A node has its state, the index of its rule
among those of the state, and the rule. -/
inductive Tree where
  | leaf (token : Token)
  | node (state : String) (index : Nat) (alternative : Alternative) (children : List Tree)

/-- The value that a rule of a state gives to the values of its symbols. -/
def act {V P : Type} (evaluator : Evaluator V P) (state : String) (a : Alternative)
    (children : List V) : Except ParseError V :=
  match evaluator.prepare a.action with
  | .error e => .error (.action state e)
  | .ok program =>
    match evaluator.evaluate program children with
    | .error e => .error (.action state e)
    | .ok v => .ok v

theorem act_error {V P : Type} {evaluator : Evaluator V P} {state : String} {a : Alternative}
    {children : List V} {e : ParseError} (h : act evaluator state a children = .error e) :
    ∃ cause, e = .action state cause := by
  rw [act] at h
  split at h
  · cases h
    exact ⟨_, rfl⟩
  · split at h
    · cases h
      exact ⟨_, rfl⟩
    · cases h

namespace Tree

mutual

/-- The tokens of a tree from left to right. -/
def leaves : Tree → List Token
  | .leaf token => [token]
  | .node _ _ _ children => leavesOf children

/-- The tokens of trees from left to right. -/
def leavesOf : List Tree → List Token
  | [] => []
  | t :: ts => t.leaves ++ leavesOf ts

end

mutual

/-- The value of a tree, or the failure of the first action that fails. -/
def value {V P : Type} (evaluator : Evaluator V P) : Tree → Except ParseError V
  | .leaf token => .ok (evaluator.leaf token.text)
  | .node state _ a children => do
    let vs ← valuesOf evaluator children
    act evaluator state a vs

/-- The values of trees from left to right. -/
def valuesOf {V P : Type} (evaluator : Evaluator V P) : List Tree → Except ParseError (List V)
  | [] => .ok []
  | t :: ts => do
    let v ← t.value evaluator
    let vs ← valuesOf evaluator ts
    pure (v :: vs)

end

section Failure

variable {V P : Type} {evaluator : Evaluator V P}

mutual

/-- Only actions fail in a tree. -/
theorem value_error {t : Tree} {e : ParseError} (h : t.value evaluator = .error e) :
    ∃ state cause, e = .action state cause := by
  cases t with
  | leaf token => cases h
  | node state index a children =>
      rw [value] at h
      cases hc : valuesOf evaluator children with
      | error e' =>
          rw [hc] at h
          cases h
          exact valuesOf_error hc
      | ok vs =>
          rw [hc] at h
          exact ⟨state, act_error h⟩

theorem valuesOf_error {ts : List Tree} {e : ParseError}
    (h : valuesOf evaluator ts = .error e) : ∃ state cause, e = .action state cause := by
  cases ts with
  | nil => cases h
  | cons t ts =>
      rw [valuesOf] at h
      cases hv : t.value evaluator with
      | error e' =>
          rw [hv] at h
          cases h
          exact value_error hv
      | ok v =>
          rw [hv] at h
          cases hs : valuesOf evaluator ts with
          | error e' =>
              rw [hs] at h
              cases h
              exact valuesOf_error hs
          | ok vs =>
              rw [hs] at h
              cases h

end

end Failure

@[simp] theorem leavesOf_append (ts us : List Tree) :
    leavesOf (ts ++ us) = leavesOf ts ++ leavesOf us := by
  induction ts with
  | nil => rfl
  | cons t ts ih => rw [List.cons_append, leavesOf, leavesOf, ih, List.append_assoc]

theorem valuesOf_singleton {V P : Type} {evaluator : Evaluator V P} {t : Tree} {v : V} :
    valuesOf evaluator [t] = .ok [v] ↔ t.value evaluator = .ok v := by
  rw [valuesOf, valuesOf]
  cases t.value evaluator <;> simp [bind, Except.bind, pure, Except.pure]

theorem valuesOf_append {V P : Type} (evaluator : Evaluator V P) (ts us : List Tree) :
    valuesOf evaluator (ts ++ us) =
      (do let vs ← valuesOf evaluator ts; let ws ← valuesOf evaluator us; pure (vs ++ ws)) := by
  induction ts with
  | nil => exact (bind_pure _).symm
  | cons t ts ih =>
      rw [List.cons_append, valuesOf, valuesOf, ih]
      simp only [bind_assoc, pure_bind, List.cons_append]

end Tree

open PredictiveParsing.Parsing.Tree

/-- The trees derive the symbols in order. A token has a leaf, a state has a node
with one of its rules over trees for the symbols of the rule, epsilon has nothing. -/
inductive IsForest (g : Grammar) : List Symbol → List Tree → Prop where
  | nil : IsForest g [] []
  | epsilon {more : List Symbol} {ts : List Tree} (rest : IsForest g more ts) :
      IsForest g (.epsilon :: more) ts
  | token {more : List Symbol} {ts : List Tree} (t : Token) (rest : IsForest g more ts) :
      IsForest g (.token t.name :: more) (.leaf t :: ts)
  | state {name : String} {index : Nat} {a : Alternative} {more : List Symbol}
      {ks ts : List Tree} (rule : g.alternative? name index = some a)
      (children : IsForest g a.symbols ks) (rest : IsForest g more ts) :
      IsForest g (.state name :: more) (.node name index a ks :: ts)

/-- The tree derives the state. -/
def IsTree (g : Grammar) (state : String) (t : Tree) : Prop :=
  IsForest g [.state state] [t]

/-- The symbols that tokens are. -/
def kinds (tokens : List Token) : List Symbol :=
  tokens.map fun t => .token t.name

variable {g : Grammar}

theorem isTree_iff {state : String} {t : Tree} :
    IsTree g state t ↔ ∃ index a ks, t = .node state index a ks ∧
      g.alternative? state index = some a ∧ IsForest g a.symbols ks := by
  constructor
  · intro h
    cases h with
    | state rule children rest => exact ⟨_, _, _, rfl, rule, children⟩
  · rintro ⟨index, a, ks, rfl, rule, children⟩
    exact .state rule children .nil

theorem IsForest.append {u v : List Symbol} {ts us : List Tree} (h : IsForest g u ts)
    (k : IsForest g v us) : IsForest g (u ++ v) (ts ++ us) := by
  induction h with
  | nil => exact k
  | epsilon _ ih => exact .epsilon ih
  | token t _ ih => exact .token t ih
  | state rule children _ _ ih => exact .state rule children ih

theorem IsForest.split {u v : List Symbol} {ts : List Tree} (h : IsForest g (u ++ v) ts) :
    ∃ us vs, ts = us ++ vs ∧ IsForest g u us ∧ IsForest g v vs := by
  induction u generalizing ts with
  | nil => exact ⟨[], ts, rfl, .nil, h⟩
  | cons y u ih =>
      cases h with
      | epsilon rest =>
          obtain ⟨us, vs, rfl, hu, hv⟩ := ih rest
          exact ⟨us, vs, rfl, .epsilon hu, hv⟩
      | token t rest =>
          obtain ⟨us, vs, rfl, hu, hv⟩ := ih rest
          exact ⟨.leaf t :: us, vs, rfl, .token t hu, hv⟩
      | state rule children rest =>
          obtain ⟨us, vs, rfl, hu, hv⟩ := ih rest
          exact ⟨_ :: us, vs, rfl, .state rule children hu, hv⟩

theorem IsForest.derives {symbols : List Symbol} {ts : List Tree}
    (h : IsForest g symbols ts) : g.Derives symbols (kinds (leavesOf ts)) := by
  induction h with
  | nil => exact .refl []
  | @epsilon more _ _ ih => exact (Grammar.derives_epsilon more).trans ih
  | token t _ ih => exact ih.cons (.token t.name)
  | @state name index a more ks ts rule _ _ ihc ihr =>
      have hroot : g.Derives [.state name] a.symbols :=
        (Grammar.hasRule_of_alternative? rule).derives
      have hkinds : kinds (leavesOf (.node name index a ks :: ts)) =
          kinds (leavesOf ks) ++ kinds (leavesOf ts) := by
        simp [kinds, leavesOf, leaves]
      rw [hkinds]
      exact (hroot.trans ihc).append ihr

private theorem isForest_kinds (tokens : List Token) :
    IsForest g (kinds tokens) (tokens.map .leaf) := by
  induction tokens with
  | nil => exact .nil
  | cons t tokens ih => exact .token t ih

private theorem leavesOf_map_leaf (tokens : List Token) :
    leavesOf (tokens.map .leaf) = tokens := by
  induction tokens with
  | nil => rfl
  | cons t tokens ih => rw [List.map_cons, leavesOf, ih, leaves, List.singleton_append]

/-- A step of a derivation is undone on trees: those of a rule become a node. -/
private theorem IsForest.rewrites (wf : g.WellFormed) {u v : List Symbol}
    (step : g.Rewrites u v) {ts : List Tree} (h : IsForest g v ts) :
    ∃ us, IsForest g u us ∧ leavesOf us = leavesOf ts := by
  induction step generalizing ts with
  | @expand name a rule rest =>
      obtain ⟨ks, us, rfl, hk, hu⟩ := h.split
      obtain ⟨index, hi⟩ := rule.alternative? wf
      refine ⟨.node name index a ks :: us, .state hi hk hu, ?_⟩
      rw [leavesOf_append, leavesOf, leaves]
  | vanish rest => exact ⟨ts, .epsilon h, rfl⟩
  | cons y _ ih =>
      cases h with
      | epsilon rest =>
          obtain ⟨us, hu, hl⟩ := ih rest
          exact ⟨us, .epsilon hu, hl⟩
      | token t rest =>
          obtain ⟨us, hu, hl⟩ := ih rest
          exact ⟨.leaf t :: us, .token t hu, by rw [leavesOf, leavesOf, hl]⟩
      | state rule children rest =>
          obtain ⟨us, hu, hl⟩ := ih rest
          exact ⟨_ :: us, .state rule children hu, by rw [leavesOf, leavesOf, hl]⟩

theorem exists_forest (wf : g.WellFormed) {symbols : List Symbol} {tokens : List Token}
    (h : g.Derives symbols (kinds tokens)) :
    ∃ ts, IsForest g symbols ts ∧ leavesOf ts = tokens := by
  induction h using Relation.ReflTransGen.head_induction_on with
  | refl => exact ⟨_, isForest_kinds tokens, leavesOf_map_leaf tokens⟩
  | head step _ ih =>
      obtain ⟨ts, ht, hl⟩ := ih
      obtain ⟨us, hu, hus⟩ := IsForest.rewrites wf step ht
      exact ⟨us, hu, hus.trans hl⟩

/-- A sequence of tokens is derivable from a state if a tree of the state spells it. -/
theorem derives_iff_exists_tree (wf : g.WellFormed) {state : String} {tokens : List Token} :
    g.Derives [.state state] (kinds tokens) ↔ ∃ t, IsTree g state t ∧ t.leaves = tokens := by
  constructor
  · intro h
    obtain ⟨ts, ht, hl⟩ := exists_forest wf h
    cases ht with
    | @state _ index a _ ks ts rule children rest =>
        cases rest with
        | nil =>
            refine ⟨.node state index a ks, .state rule children .nil, ?_⟩
            simpa [leavesOf] using hl
  · rintro ⟨t, ht, rfl⟩
    simpa [leavesOf] using ht.derives

end PredictiveParsing.Parsing
