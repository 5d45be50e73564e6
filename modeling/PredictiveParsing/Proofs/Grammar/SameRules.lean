import PredictiveParsing.Proofs.Grammar.Inclusion
import PredictiveParsing.Proofs.Grammar.LeftRecursion
import PredictiveParsing.Proofs.Grammar.Table

/-!
Grammars with the same rules in another order. They derive the same forms, so that their sets
are the same but for the order of the members, and they pass the same checks.
-/
namespace PredictiveParsing.Grammar

/-- Each state has the same alternatives in both grammars, in any order, and the tokens are
the same ones. -/
structure SameRules (g g' : Grammar) : Prop where
  tokens_eq : g'.tokens = g.tokens
  forth : ∀ p ∈ g.productions, ∃ p' ∈ g'.productions,
    p'.lhs = p.lhs ∧ p.alternatives.Perm p'.alternatives
  back : ∀ p' ∈ g'.productions, ∃ p ∈ g.productions,
    p.lhs = p'.lhs ∧ p'.alternatives.Perm p.alternatives

namespace SameRules

variable {g g' : Grammar}

theorem symm (h : g.SameRules g') : g'.SameRules g :=
  ⟨h.tokens_eq.symm, h.back, h.forth⟩

theorem state_mem (h : g.SameRules g') {state : String} (declared : state ∈ g.states) :
    state ∈ g'.states := by
  obtain ⟨p, hp, rfl⟩ := List.mem_map.mp declared
  obtain ⟨p', hp', same, -⟩ := h.forth p hp
  exact List.mem_map.mpr ⟨p', hp', same⟩

theorem hasRule (h : g.SameRules g') {state : String} {a : Alternative} (rule : g.HasRule state a) :
    g'.HasRule state a := by
  obtain ⟨p, hp, rfl, ha⟩ := rule
  obtain ⟨p', hp', same, perm⟩ := h.forth p hp
  exact ⟨p', hp', same, perm.mem_iff.mp ha⟩

theorem included (h : g.SameRules g') : g.IncludedIn g' :=
  ⟨h.state_mem, h.hasRule⟩

section Sets

theorem mem_first_iff (h : g.SameRules g') (wf : g.WellFormed) (wf' : g'.WellFormed)
    {symbols : List Symbol} {x : Terminal} :
    x ∈ (firstOfSequence g'.firstSets symbols).1 ↔ x ∈ (firstOfSequence g.firstSets symbols).1 := by
  rw [Grammar.mem_first_iff wf, Grammar.mem_first_iff wf']
  exact ⟨h.symm.included.begins, h.included.begins⟩

theorem startsWith_eq (h : g.SameRules g') (wf : g.WellFormed) (wf' : g'.WellFormed)
    (token : String) (symbols : List Symbol) :
    startsWith g'.firstSets token symbols = startsWith g.firstSets token symbols := by
  rw [Bool.eq_iff_iff, startsWith_iff, startsWith_iff]
  exact h.mem_first_iff wf wf'

theorem holds_first_eq (h : g.SameRules g') (wf : g.WellFormed) (wf' : g'.WellFormed)
    (state : String) (x : Terminal) : g'.firstSets.holds state x = g.firstSets.holds state x := by
  rw [Bool.eq_iff_iff, holds_first_iff wf, holds_first_iff wf']
  exact ⟨h.symm.included.begins, h.included.begins⟩

theorem holds_follow_eq (h : g.SameRules g') (wf : g.WellFormed) (wf' : g'.WellFormed)
    (state : String) (x : Terminal) :
    (g'.followSets g'.firstSets).holds state x = (g.followSets g.firstSets).holds state x := by
  rw [Bool.eq_iff_iff, holds_follow_iff wf, holds_follow_iff wf']
  exact ⟨h.symm.included.succeeds, h.included.succeeds⟩

end Sets

section LeftRecursion

theorem leadingStates_eq (h : g.SameRules g') (wf : g.WellFormed) (wf' : g'.WellFormed)
    (symbols : List Symbol) : g'.leadingStates symbols = g.leadingStates symbols := by
  have same : ∀ name, g'.hasEpsilonRule name = g.hasEpsilonRule name := by
    intro name
    rw [Bool.eq_iff_iff, hasEpsilonRule_iff wf, hasEpsilonRule_iff wf']
    constructor
    · rintro ⟨a, rule, empty⟩
      exact ⟨a, h.symm.hasRule rule, empty⟩
    · rintro ⟨a, rule, empty⟩
      exact ⟨a, h.hasRule rule, empty⟩
  induction symbols with
  | nil => rfl
  | cons y more ih =>
      cases y with
      | token _ => rfl
      | epsilon => exact ih
      | state name => rw [leadingStates, leadingStates, same, ih]

theorem checkLeftRecursion (h : g.SameRules g') (wf : g.WellFormed) (wf' : g'.WellFormed)
    (checked : g.checkLeftRecursion = .ok ()) : g'.checkLeftRecursion = .ok () := by
  rw [checkLeftRecursion_iff wf] at checked
  rw [checkLeftRecursion_iff wf']
  intro state cycle
  refine checked state (Relation.TransGen.mono (fun v w edge => ?_) _ _ cycle)
  obtain ⟨a, rule, hw⟩ := (mem_leftCorners wf').mp edge
  rw [h.leadingStates_eq wf wf'] at hw
  exact (mem_leftCorners wf).mpr ⟨a, h.symm.hasRule rule, hw⟩

end LeftRecursion

section Checks

theorem checkPrefixes (h : g.SameRules g') (checked : g.checkPrefixes = .ok ()) :
    g'.checkPrefixes = .ok () := by
  rw [checkPrefixes_iff] at checked ⊢
  intro p' hp'
  obtain ⟨p, hp, -, perm⟩ := h.back p' hp'
  have apart := sharesPrefix_eq_false.mp (checked p hp)
  exact sharesPrefix_eq_false.mpr ((perm.pairwise_iff Ne.symm).mpr apart)

theorem checkStructure (h : g.SameRules g') (wf : g.WellFormed) (wf' : g'.WellFormed)
    (checked : g.checkStructure = .ok ()) : g'.checkStructure = .ok () := by
  obtain ⟨_, acyclic, prefixes⟩ := exists_of_bind_ok checked
  rw [Grammar.checkStructure, h.checkLeftRecursion wf wf' acyclic]
  exact h.checkPrefixes prefixes

theorem checkOverlap (h : g.SameRules g') (wf : g.WellFormed) (wf' : g'.WellFormed)
    (checked : g.checkOverlap g.firstSets = .ok ()) :
    g'.checkOverlap g'.firstSets = .ok () := by
  rw [checkOverlap_iff] at checked ⊢
  intro p' hp' t ht
  obtain ⟨p, hp, -, perm⟩ := h.back p' hp'
  rw [h.tokens_eq] at ht
  simp only [h.startsWith_eq wf wf', perm.countP_eq]
  exact checked p hp t ht

end Checks

section Lookups

theorem sorted_follow (h : g.SameRules g') (wf : g.WellFormed) (wf' : g'.WellFormed)
    (state : String) :
    ((g'.followSets g'.firstSets).get? state).map TerminalSet.sorted =
      ((g.followSets g.firstSets).get? state).map TerminalSet.sorted :=
  (within_followSets wf).sorted_get? (within_followSets wf') ⟨h.state_mem, h.symm.state_mem⟩
    (h.holds_follow_eq wf wf' state)

theorem production?_rel (h : g.SameRules g') (wf : g.WellFormed) (wf' : g'.WellFormed)
    (state : String) :
    Option.Rel (fun p p' => p.alternatives.Perm p'.alternatives) (g.production? state)
      (g'.production? state) := by
  cases hp : g.production? state with
  | none =>
      cases hp' : g'.production? state with
      | none => exact .none
      | some p' =>
          obtain ⟨mem, rfl⟩ := (production?_eq_some wf').mp hp'
          obtain ⟨p, declared, same, -⟩ := h.back p' mem
          rw [(production?_eq_some wf).mpr ⟨declared, same⟩] at hp
          cases hp
  | some p =>
      obtain ⟨mem, rfl⟩ := (production?_eq_some wf).mp hp
      obtain ⟨p', declared, same, perm⟩ := h.forth p mem
      rw [(production?_eq_some wf').mpr ⟨declared, same⟩]
      exact .some perm

/-- The table has rules for the same tokens. -/
theorem expected_eq (h : g.SameRules g') (wf : g.WellFormed) (wf' : g'.WellFormed)
    (state : String) :
    (g'.predictiveTable g'.firstSets).expected state =
      (g.predictiveTable g.firstSets).expected state := by
  have rows := h.production?_rel wf wf' state
  rw [expected_predictiveTable, expected_predictiveTable]
  generalize g.production? state = found at rows
  generalize g'.production? state = found' at rows
  cases rows with
  | none => rfl
  | some perm => simp only [h.startsWith_eq wf wf', h.tokens_eq, perm.any_eq]

end Lookups

end SameRules

section Resolution

variable {patterns : String → Option Text.Matcher} {d d' : Declarations} {g g' : Grammar}
  {isToken isState : String → Bool} {rules rules' : List RuleDeclaration}

theorem checkHeads_iff : checkHeads isToken rules = .ok () ↔
    ∀ r ∈ rules, ¬(r.state = epsilonName ∨ r.state = endName) ∧ isToken r.state = false ∧
      r.symbols.isEmpty = false := by
  induction rules with
  | nil => simp [checkHeads]
  | cons r more ih =>
      rw [checkHeads, List.forall_mem_cons, ← ih]
      split
      · next reserved => simp [reserved]
      · next free =>
          split
          · next token => simp [token]
          · next state =>
              split
              · next empty => simp [empty]
              · next some => simp [free, state, some]

theorem contains_statesOf_perm (perm : rules.Perm rules') :
    (statesOf rules').contains = (statesOf rules).contains := by
  funext name
  rw [Bool.eq_iff_iff, List.contains_iff_mem, List.contains_iff_mem, mem_statesOf, mem_statesOf]
  simp only [perm.mem_iff]

/-- The rules of a state are resolved to the same alternatives in the order they come. -/
theorem resolveState_perm (perm : rules.Perm rules') {state : String} {p : Production}
    (h : resolveState isToken isState rules state = .ok p) :
    ∃ p', resolveState isToken isState rules' state = .ok p' ∧ p'.lhs = p.lhs ∧
      p.alternatives.Perm p'.alternatives := by
  obtain ⟨alternatives, resolved, h⟩ := exists_of_bind_ok h
  cases h
  -- each rule is resolved on its own, so that the alternatives are permuted as the rules are
  obtain ⟨alternatives', each, perm'⟩ := List.perm_comp_forall₂
    (perm.symm.filter (·.state == state)) (forall₂_of_mapM resolved)
  refine ⟨⟨state, alternatives'⟩, ?_, rfl, perm'.symm⟩
  rw [resolveState, mapM_of_forall₂ each]
  rfl

theorem exists_ofDeclarations_perm (tokens : d'.tokens = d.tokens) (perm : d.rules.Perm d'.rules)
    (h : ofDeclarations patterns d = .ok g) : ∃ g', ofDeclarations patterns d' = .ok g' := by
  obtain ⟨start, defined, heads, resolved⟩ := ofDeclarations_ok h
  have start' : checkStart d' = .ok () := by
    rw [checkStart, ← perm.any_eq]
    exact start
  have heads' : checkHeads g.isToken d'.rules = .ok () := by
    rw [checkHeads_iff] at heads ⊢
    exact fun r hr => heads r (perm.mem_iff.mpr hr)
  have each : ∀ name ∈ statesOf d'.rules, ∃ p',
      resolveState g.isToken (statesOf d'.rules).contains d'.rules name = .ok p' := by
    intro name hn
    obtain ⟨r, hr, rfl⟩ := mem_statesOf.mp hn
    have listed : r.state ∈ statesOf d.rules := mem_statesOf.mpr ⟨r, perm.mem_iff.mpr hr, rfl⟩
    obtain ⟨p, -, hp⟩ := forall₂_right (forall₂_of_mapM resolved).flip listed
    obtain ⟨p', hp', -⟩ := resolveState_perm perm hp
    rw [contains_statesOf_perm perm]
    exact ⟨p', hp'⟩
  obtain ⟨productions, resolved'⟩ := exists_mapM_of_forall each
  rw [← tokens] at defined
  exact ⟨_, ofDeclarations_of_ok start' defined heads' resolved'⟩

/-- What is declared in another order is resolved to the same rules. -/
theorem sameRules_of_perm (tokens : d'.tokens = d.tokens) (perm : d.rules.Perm d'.rules)
    (h : ofDeclarations patterns d = .ok g) (h' : ofDeclarations patterns d' = .ok g') :
    g.SameRules g' := by
  obtain ⟨-, -, -, resolved⟩ := ofDeclarations_ok h
  obtain ⟨-, -, -, resolved'⟩ := ofDeclarations_ok h'
  obtain ⟨same, sameToken⟩ := tokens_of_ofDeclarations tokens h h'
  rw [sameToken, contains_statesOf_perm perm] at resolved'
  have states : ∀ name, name ∈ statesOf d.rules ↔ name ∈ statesOf d'.rules := by
    intro name
    rw [mem_statesOf, mem_statesOf]
    simp only [perm.mem_iff]
  refine ⟨same, fun p hp => ?_, fun p' hp' => ?_⟩
  · obtain ⟨name, listed, hr⟩ := forall₂_right (forall₂_of_mapM resolved) hp
    obtain ⟨p', hp', hr'⟩ :=
      forall₂_right (forall₂_of_mapM resolved').flip ((states name).mp listed)
    obtain ⟨q, hq, lhs, alternatives⟩ := resolveState_perm perm hr
    obtain rfl := Except.ok.inj (hq.symm.trans hr')
    exact ⟨q, hp', lhs, alternatives⟩
  · obtain ⟨name, listed, hr'⟩ := forall₂_right (forall₂_of_mapM resolved') hp'
    obtain ⟨p, hp, hr⟩ :=
      forall₂_right (forall₂_of_mapM resolved).flip ((states name).mpr listed)
    obtain ⟨q, hq, lhs, alternatives⟩ := resolveState_perm perm.symm hr'
    obtain rfl := Except.ok.inj (hq.symm.trans hr)
    exact ⟨q, hp, lhs, alternatives⟩

end Resolution

end PredictiveParsing.Grammar
