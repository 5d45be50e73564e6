import PredictiveParsing.Proofs.Grammar.Inclusion
import PredictiveParsing.Proofs.Grammar.Table

/-!
Rules of states that were not there before. The old states keep their rules, and nothing that
they derive mentions a new state. They therefore begin with the same terminals and have the same
rules in the table; only what follows them can become more, since a new state may mention them.
-/
namespace PredictiveParsing.Grammar

/-- The second grammar has states besides those of the first one, which keep their rules. -/
structure AddsStates (g g' : Grammar) : Prop where
  tokens_eq : g'.tokens = g.tokens
  production?_eq : ∀ state ∈ g.states, g'.production? state = g.production? state

/-- All states among the symbols are declared. -/
def Declares (g : Grammar) (symbols : List Symbol) : Prop :=
  ∀ name, .state name ∈ symbols → name ∈ g.states

theorem WellFormed.declares {g : Grammar} (wf : g.WellFormed) {state : String} {a : Alternative}
    (rule : g.HasRule state a) : g.Declares a.symbols :=
  fun _ mentioned => wf.state_declared rule mentioned

theorem declares_singleton {g : Grammar} {state : String} (declared : state ∈ g.states) :
    g.Declares [.state state] := by
  intro name mentioned
  cases List.mem_singleton.mp mentioned
  exact declared

namespace AddsStates

variable {g g' : Grammar} {state : String} {symbols : List Symbol} {x : Terminal}

theorem alternative?_eq (h : g.AddsStates g') (declared : state ∈ g.states) (index : Nat) :
    g'.alternative? state index = g.alternative? state index := by
  rw [alternative?, alternative?, h.production?_eq state declared]

theorem hasRule_iff (h : g.AddsStates g') (wf : g.WellFormed) (wf' : g'.WellFormed)
    (declared : state ∈ g.states) {a : Alternative} : g'.HasRule state a ↔ g.HasRule state a := by
  rw [Grammar.hasRule_iff wf, Grammar.hasRule_iff wf', h.production?_eq state declared]

theorem included (h : g.AddsStates g') (wf : g.WellFormed) (wf' : g'.WellFormed) :
    g.IncludedIn g' := by
  have rules : ∀ {state a}, g.HasRule state a → g'.HasRule state a :=
    fun rule => (h.hasRule_iff wf wf' rule.state_mem).mpr rule
  refine ⟨fun declared => ?_, rules⟩
  obtain ⟨p, hp, rfl⟩ := List.mem_map.mp declared
  have found := (production?_eq_some wf).mpr ⟨hp, rfl⟩
  rw [← h.production?_eq _ declared, production?_eq_some wf'] at found
  exact List.mem_map_of_mem found.1

section Derivations

theorem rewrites_back (h : g.AddsStates g') (wf : g.WellFormed) (wf' : g'.WellFormed)
    {u v : List Symbol} (step : g'.Rewrites u v) (declared : g.Declares u) :
    g.Rewrites u v ∧ g.Declares v := by
  induction step with
  | @expand name a rule rest =>
      have old := (h.hasRule_iff wf wf' (declared name List.mem_cons_self)).mp rule
      refine ⟨.expand old rest, fun other mentioned => ?_⟩
      rcases List.mem_append.mp mentioned with inside | behind
      · exact wf.declares old other inside
      · exact declared other (List.mem_cons_of_mem _ behind)
  | vanish rest => exact ⟨.vanish rest, fun other hm => declared other (List.mem_cons_of_mem _ hm)⟩
  | cons y _ ih =>
      obtain ⟨old, tail⟩ := ih fun other hm => declared other (List.mem_cons_of_mem _ hm)
      refine ⟨.cons y old, fun other mentioned => ?_⟩
      rcases List.mem_cons.mp mentioned with rfl | behind
      · exact declared other List.mem_cons_self
      · exact tail other behind

/-- The new states are not reached from the old ones. -/
theorem derives_back (h : g.AddsStates g') (wf : g.WellFormed) (wf' : g'.WellFormed)
    {u v : List Symbol} (derives : g'.Derives u v) (declared : g.Declares u) :
    g.Derives u v ∧ g.Declares v := by
  induction derives with
  | refl => exact ⟨.refl u, declared⟩
  | tail _ step ih =>
      obtain ⟨before, middle⟩ := ih
      obtain ⟨last, stays⟩ := h.rewrites_back wf wf' step middle
      exact ⟨before.trans last.derives, stays⟩

theorem begins_iff (h : g.AddsStates g') (wf : g.WellFormed) (wf' : g'.WellFormed)
    (declared : g.Declares symbols) : g'.Begins symbols x ↔ g.Begins symbols x := by
  refine ⟨fun begins => ?_, (h.included wf wf').begins⟩
  cases x with
  | token t =>
      obtain ⟨rest, derives⟩ := begins
      exact ⟨rest, (h.derives_back wf wf' derives declared).1⟩
  | epsilon => exact (h.derives_back wf wf' begins declared).1
  | endOfInput => exact begins

end Derivations

section Sets

theorem mem_first_iff (h : g.AddsStates g') (wf : g.WellFormed) (wf' : g'.WellFormed)
    (declared : g.Declares symbols) : x ∈ (firstOfSequence g'.firstSets symbols).1 ↔
      x ∈ (firstOfSequence g.firstSets symbols).1 := by
  rw [Grammar.mem_first_iff wf, Grammar.mem_first_iff wf']
  exact h.begins_iff wf wf' declared

theorem startsWith_eq (h : g.AddsStates g') (wf : g.WellFormed) (wf' : g'.WellFormed)
    (declared : g.Declares symbols) (token : String) :
    startsWith g'.firstSets token symbols = startsWith g.firstSets token symbols := by
  rw [Bool.eq_iff_iff, startsWith_iff, startsWith_iff]
  exact h.mem_first_iff wf wf' declared

theorem nullable_eq (h : g.AddsStates g') (wf : g.WellFormed) (wf' : g'.WellFormed)
    (declared : g.Declares symbols) :
    (firstOfSequence g'.firstSets symbols).2 = (firstOfSequence g.firstSets symbols).2 := by
  rw [Bool.eq_iff_iff, firstOfSequence_nullable, firstOfSequence_nullable]
  exact h.mem_first_iff wf wf' declared

theorem holds_first_eq (h : g.AddsStates g') (wf : g.WellFormed) (wf' : g'.WellFormed)
    (declared : state ∈ g.states) (x : Terminal) :
    g'.firstSets.holds state x = g.firstSets.holds state x := by
  rw [Bool.eq_iff_iff, holds_first_iff wf, holds_first_iff wf']
  exact h.begins_iff wf wf' (declares_singleton declared)

theorem holds_follow (h : g.AddsStates g') (wf : g.WellFormed) (wf' : g'.WellFormed)
    (follows : (g.followSets g.firstSets).holds state x = true) :
    (g'.followSets g'.firstSets).holds state x = true := by
  rw [holds_follow_iff wf] at follows
  rw [holds_follow_iff wf']
  exact (h.included wf wf').succeeds follows

end Sets

section Table

private theorem findIdx?_congr {α : Type} {xs : List α} {p q : α → Bool}
    (same : ∀ x ∈ xs, p x = q x) : xs.findIdx? p = xs.findIdx? q := by
  induction xs with
  | nil => rfl
  | cons x xs ih =>
      obtain ⟨here, rest⟩ := List.forall_mem_cons.mp same
      rw [List.findIdx?_cons, List.findIdx?_cons, here, ih rest]

/-- The table has the same rules for an old state. -/
theorem rule?_eq (h : g.AddsStates g') (wf : g.WellFormed) (wf' : g'.WellFormed)
    (declared : state ∈ g.states) (token : String) :
    (g'.predictiveTable g'.firstSets).rule? state token =
      (g.predictiveTable g.firstSets).rule? state token := by
  rw [rule?_predictiveTable, rule?_predictiveTable, isToken, isToken, h.tokens_eq,
    h.production?_eq state declared]
  cases hp : g.production? state with
  | none => rfl
  | some p =>
      obtain ⟨mem, rfl⟩ := (production?_eq_some wf).mp hp
      have same : ∀ a ∈ p.alternatives,
          startsWith g'.firstSets token a.symbols = startsWith g.firstSets token a.symbols :=
        fun a ha => h.startsWith_eq wf wf' (wf.declares ⟨p, mem, rfl, ha⟩) token
      simp only [Option.bind_some, findIdx?_congr same]

theorem emptyRule?_eq (h : g.AddsStates g') (wf : g.WellFormed) (wf' : g'.WellFormed)
    (declared : state ∈ g.states) :
    (g'.predictiveTable g'.firstSets).emptyRule? state =
      (g.predictiveTable g.firstSets).emptyRule? state := by
  rw [emptyRule?_predictiveTable, emptyRule?_predictiveTable, h.production?_eq state declared]
  cases hp : g.production? state with
  | none => rfl
  | some p =>
      obtain ⟨mem, rfl⟩ := (production?_eq_some wf).mp hp
      have same : ∀ a ∈ p.alternatives, (firstOfSequence g'.firstSets a.symbols).2 =
          (firstOfSequence g.firstSets a.symbols).2 :=
        fun a ha => h.nullable_eq wf wf' (wf.declares ⟨p, mem, rfl, ha⟩)
      simp only [Option.bind_some, emptyAlternative?, h.holds_first_eq wf wf' declared,
        findIdx?_congr same]

end Table

end AddsStates

section Resolution

/-- The second declarations have rules of other states besides those of the first ones, in any
places between them. The tokens are the same. -/
structure Declarations.AddsStates (d d' : Declarations) : Prop where
  tokens_eq : d'.tokens = d.tokens
  rules_eq : d'.rules.filter (fun r => d.rules.any (·.state == r.state)) = d.rules

variable {patterns : String → Option Text.Matcher} {d d' : Declarations} {g g' : Grammar}
  {isToken isState isState' : String → Bool}

private theorem resolve_mono (more : ∀ name, isState name = true → isState' name = true)
    {state name : String} {x : Symbol} (h : resolve isToken isState state name = .ok x) :
    resolve isToken isState' state name = .ok x := by
  rw [resolve] at h ⊢
  split at h
  · next reserved => rw [if_pos reserved, h]
  · next free =>
      rw [if_neg free]
      split at h
      · next token => rw [if_pos token, h]
      · next other =>
          rw [if_neg other]
          split at h
          · next declared => rw [if_pos (more name declared), h]
          · cases h

private theorem resolveRule_mono (more : ∀ name, isState name = true → isState' name = true)
    {r : RuleDeclaration} {a : Alternative} (h : resolveRule isToken isState r = .ok a) :
    resolveRule isToken isState' r = .ok a := by
  obtain ⟨symbols, resolved, h⟩ := exists_of_bind_ok h
  cases h
  have each := (forall₂_of_mapM resolved).imp fun _ _ hx => resolve_mono more hx
  rw [resolveRule, mapM_of_forall₂ each]
  rfl

/-- A state whose rules are the same is resolved to the same production. -/
theorem resolveState_mono (more : ∀ name, isState name = true → isState' name = true)
    {rules rules' : List RuleDeclaration} {state : String} {p : Production}
    (same : rules'.filter (·.state == state) = rules.filter (·.state == state))
    (h : resolveState isToken isState rules state = .ok p) :
    resolveState isToken isState' rules' state = .ok p := by
  obtain ⟨alternatives, resolved, h⟩ := exists_of_bind_ok h
  cases h
  have each := (forall₂_of_mapM resolved).imp fun _ _ ha => resolveRule_mono more ha
  rw [resolveState, same, mapM_of_forall₂ each]
  rfl

theorem Declarations.AddsStates.filter_eq (adds : d.AddsStates d') {state : String}
    (old : state ∈ statesOf d.rules) :
    d'.rules.filter (·.state == state) = d.rules.filter (·.state == state) := by
  obtain ⟨r, hr, rfl⟩ := mem_statesOf.mp old
  conv_rhs => rw [← adds.rules_eq, List.filter_filter]
  apply List.filter_congr
  intro r' _
  by_cases same : r'.state = r.state
  · have listed : d.rules.any (·.state == r'.state) = true :=
      List.any_eq_true.mpr ⟨r, hr, by simp [same]⟩
    rw [listed, Bool.and_true]
  · simp [same]

/-- Declarations with rules of further states are resolved to a grammar that adds states. -/
theorem addsStates_of_ofDeclarations (adds : d.AddsStates d')
    (h : ofDeclarations patterns d = .ok g) (h' : ofDeclarations patterns d' = .ok g') :
    g.AddsStates g' := by
  have wf := wellFormed_of_ofDeclarations h
  have wf' := wellFormed_of_ofDeclarations h'
  obtain ⟨-, -, -, resolved⟩ := ofDeclarations_ok h
  obtain ⟨-, -, -, resolved'⟩ := ofDeclarations_ok h'
  obtain ⟨tokens, isToken_eq⟩ := tokens_of_ofDeclarations adds.tokens_eq h h'
  have old : ∀ {name}, name ∈ statesOf d.rules → name ∈ statesOf d'.rules := by
    intro name hn
    obtain ⟨r, hr, rfl⟩ := mem_statesOf.mp hn
    rw [← adds.rules_eq] at hr
    exact mem_statesOf.mpr ⟨r, (List.mem_filter.mp hr).1, rfl⟩
  have more : ∀ name, (statesOf d.rules).contains name = true →
      (statesOf d'.rules).contains name = true := by
    intro name
    rw [List.contains_iff_mem, List.contains_iff_mem]
    exact old
  refine ⟨tokens, fun state declared => ?_⟩
  obtain ⟨p, hp, rfl⟩ := List.mem_map.mp declared
  rw [(production?_eq_some wf).mpr ⟨hp, rfl⟩, production?_eq_some wf']
  obtain ⟨name, listed, production⟩ := forall₂_right (forall₂_of_mapM resolved) hp
  obtain ⟨p', hp', production'⟩ := forall₂_right (forall₂_of_mapM resolved').flip (old listed)
  have same := resolveState_mono more (adds.filter_eq listed) production
  rw [isToken_eq] at production'
  cases Except.ok.inj (production'.symm.trans same)
  exact ⟨hp', rfl⟩

end Resolution

end PredictiveParsing.Grammar
