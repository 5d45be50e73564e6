import Mathlib.Data.List.Flatten
import Mathlib.Data.List.ProdSigma
import PredictiveParsing.Parsing.Notice
import PredictiveParsing.Proofs.Grammar.Table

/-!
The predictive table in terms of derivations. For a state and a token it has the rule declared
first among those that can begin with the token, and for a state that can vanish its empty rule
or else the first one that vanishes. Where several rules can begin with a token there is a
warning, and the strict check names the first such place.
-/
namespace PredictiveParsing.Grammar

/-- The rule of the state at the index is the first one with the property. -/
def IsFirstRule (g : Grammar) (state : String) (property : Alternative → Prop) (index : Nat) :
    Prop :=
  (∃ a, g.alternative? state index = some a ∧ property a) ∧
    ∀ j < index, ∀ b, g.alternative? state j = some b → ¬property b

/-- The rule derives a form that begins with the token. -/
def BeginsWith (g : Grammar) (token : String) (a : Alternative) : Prop :=
  ∃ rest, g.Derives a.symbols (.token token :: rest)

/-- Two rules of the state, or one that is declared twice, can begin with the token. -/
def Overlaps (g : Grammar) (state token : String) : Prop :=
  ∃ i j a b, i < j ∧ g.alternative? state i = some a ∧ g.alternative? state j = some b ∧
    g.BeginsWith token a ∧ g.BeginsWith token b

/-- The states with each of the tokens, by production and then by token. -/
def places (g : Grammar) : List (String × String) :=
  g.states ×ˢ g.tokens.map (·.name)

/-- The entries for tokens, by state and token. -/
def PredictiveTable.entries (table : PredictiveTable) : List ((String × String) × Nat) :=
  table.flatMap fun row => row.rules.map fun (token, index) => ((row.state, token), index)

/-- The entries for states that vanish. -/
def PredictiveTable.emptyEntries (table : PredictiveTable) : List (String × Nat) :=
  table.filterMap fun row => row.empty.map fun index => (row.state, index)

variable {g : Grammar}

section Entries

theorem startsWith_firstSets (wf : g.WellFormed) {token : String} {a : Alternative} :
    startsWith g.firstSets token a.symbols = true ↔ g.BeginsWith token a :=
  startsWith_iff.trans (mem_first_iff wf)

theorem nullable_firstSets (wf : g.WellFormed) {a : Alternative} :
    (firstOfSequence g.firstSets a.symbols).2 = true ↔ g.Derives a.symbols [] :=
  (firstOfSequence_nullable a.symbols).trans (mem_first_iff wf)

theorem BeginsWith.isToken (wf : g.WellFormed) {state token : String} {a : Alternative}
    (rule : g.HasRule state a) (h : g.BeginsWith token a) : g.isToken token = true :=
  isToken_of_mem_first wf rule ((mem_first_iff wf).mpr h)

section Search

variable {state : String} {p : Production} {test : Alternative → Bool}
  {property : Alternative → Prop}

theorem findIdx?_iff_isFirstRule (found : g.production? state = some p)
    (same : ∀ a, test a = true ↔ property a) {index : Nat} :
    p.alternatives.findIdx? test = some index ↔ g.IsFirstRule state property index := by
  simp only [findIdx?_eq_some, IsFirstRule, alternative?, found, Option.bind_some,
    ← Bool.not_eq_true, same]

theorem findIdx?_eq_none_iff_rules (wf : g.WellFormed) (found : g.production? state = some p)
    (same : ∀ a, test a = true ↔ property a) :
    p.alternatives.findIdx? test = none ↔ ∀ a, g.HasRule state a → ¬property a := by
  simp only [List.findIdx?_eq_none_iff, hasRule_iff wf, found, Option.some.injEq,
    exists_eq_left', ← Bool.not_eq_true, same]

end Search

theorem IsFirstRule.hasRule {state : String} {property : Alternative → Prop} {index : Nat}
    (h : g.IsFirstRule state property index) : ∃ a, g.HasRule state a ∧ property a := by
  obtain ⟨⟨a, rule, ha⟩, -⟩ := h
  exact ⟨a, hasRule_of_alternative? rule, ha⟩

theorem rule?_iff_isFirstRule (wf : g.WellFormed) {state token : String} {index : Nat} :
    (g.predictiveTable g.firstSets).rule? state token = some index ↔
      g.IsFirstRule state (g.BeginsWith token) index := by
  have begins : ∀ a : Alternative,
      .token token ∈ (firstOfSequence g.firstSets a.symbols).1 ↔ g.BeginsWith token a :=
    fun a => mem_first_iff wf
  rw [rule?_eq_some]
  simp only [begins]
  refine and_iff_right_of_imp fun first => ?_
  obtain ⟨a, rule, ha⟩ := IsFirstRule.hasRule first
  exact ha.isToken wf rule

theorem holds_epsilon_of_rule (wf : g.WellFormed) {state : String} {a : Alternative}
    (rule : g.HasRule state a) (vanish : g.Derives a.symbols []) :
    g.firstSets.holds state .epsilon = true :=
  (holds_first_iff wf).mpr (rule.derives.trans vanish)

/-- The test whether a state vanishes is never what decides: a state with a rule that vanishes
does so itself. -/
theorem emptyAlternative?_eq_or (wf : g.WellFormed) {p : Production}
    (declared : p ∈ g.productions) :
    emptyAlternative? g.firstSets p = p.epsilonAlternative?.or
      (p.alternatives.findIdx? fun a => (firstOfSequence g.firstSets a.symbols).2) := by
  rw [emptyAlternative?]
  split
  · rfl
  · next stays =>
      have others : ∀ a ∈ p.alternatives, ¬g.Derives a.symbols [] := fun a ha vanish =>
        stays (holds_epsilon_of_rule wf ⟨p, declared, rfl, ha⟩ vanish)
      have literal : p.epsilonAlternative? = none := by
        refine List.findIdx?_eq_none_iff.mpr fun a ha => Bool.eq_false_iff.mpr fun same => ?_
        exact others a ha ((mem_first_iff wf).mp (a.nullable_of_isEpsilon same))
      have nullable : (p.alternatives.findIdx? fun a =>
          (firstOfSequence g.firstSets a.symbols).2) = none := by
        refine List.findIdx?_eq_none_iff.mpr fun a ha => Bool.eq_false_iff.mpr fun same => ?_
        exact others a ha ((nullable_firstSets wf).mp same)
      rw [literal, nullable, Option.or_none]

theorem emptyRule?_iff_isFirstRule (wf : g.WellFormed) {state : String} {index : Nat} :
    (g.predictiveTable g.firstSets).emptyRule? state = some index ↔
      g.IsFirstRule state (fun a => a.symbols = [.epsilon]) index ∨
        (∀ a, g.HasRule state a → a.symbols ≠ [.epsilon]) ∧
          g.IsFirstRule state (fun a => g.Derives a.symbols []) index := by
  rw [emptyRule?_predictiveTable]
  cases found : g.production? state with
  | none => simp [IsFirstRule, alternative?, found]
  | some p =>
      have declared := ((production?_eq_some wf).mp found).1
      have literal : ∀ a : Alternative, a.isEpsilon = true ↔ a.symbols = [.epsilon] := by
        simp [Alternative.isEpsilon]
      rw [Option.bind_some, emptyAlternative?_eq_or wf declared, Option.or_eq_some_iff,
        Production.epsilonAlternative?, findIdx?_iff_isFirstRule found literal,
        findIdx?_eq_none_iff_rules wf found literal,
        findIdx?_iff_isFirstRule found fun a => nullable_firstSets wf]

theorem exists_emptyRule?_iff (wf : g.WellFormed) {state : String} :
    (∃ index, (g.predictiveTable g.firstSets).emptyRule? state = some index) ↔
      g.Derives [.state state] [] := by
  rw [← Option.isSome_iff_exists, emptyRule?_isSome wf]
  exact holds_first_iff wf

theorem mem_rules_tableRow {first : SetTable} {p : Production} {token : String} {index : Nat} :
    (token, index) ∈ (g.tableRow first p).rules ↔ g.isToken token = true ∧
      (p.alternatives.findIdx? fun a => startsWith first token a.symbols) = some index := by
  simp only [tableRow, List.mem_filterMap, head?_candidates, Option.map_eq_some_iff,
    Prod.mk.injEq, isToken, List.any_eq_true, beq_iff_eq]
  constructor
  · rintro ⟨t, ht, i, found, rfl, rfl⟩
    exact ⟨⟨t, ht, rfl⟩, found⟩
  · rintro ⟨⟨t, ht, rfl⟩, found⟩
    exact ⟨t, ht, index, found, rfl, rfl⟩

theorem mem_entries (wf : g.WellFormed) {first : SetTable} {state token : String} {index : Nat} :
    ((state, token), index) ∈ (g.predictiveTable first).entries ↔
      (g.predictiveTable first).rule? state token = some index := by
  have listed : ((state, token), index) ∈ (g.predictiveTable first).entries ↔
      ∃ p ∈ g.productions, p.lhs = state ∧ (token, index) ∈ (g.tableRow first p).rules := by
    simp only [PredictiveTable.entries, predictiveTable, List.mem_flatMap, List.mem_map,
      exists_exists_and_eq_and, Prod.mk.injEq]
    constructor
    · rintro ⟨p, hp, ⟨_, _⟩, entry, ⟨named, rfl⟩, rfl⟩
      exact ⟨p, hp, named, entry⟩
    · rintro ⟨p, hp, named, entry⟩
      exact ⟨p, hp, _, entry, ⟨named, rfl⟩, rfl⟩
  rw [listed, rule?_predictiveTable]
  simp only [mem_rules_tableRow]
  by_cases declared : g.isToken token = true
  · simp only [declared, if_true, true_and, Option.bind_eq_some_iff, production?_eq_some wf,
      and_assoc]
  · simp [declared]

theorem mem_emptyEntries (wf : g.WellFormed) {first : SetTable} {state : String} {index : Nat} :
    (state, index) ∈ (g.predictiveTable first).emptyEntries ↔
      (g.predictiveTable first).emptyRule? state = some index := by
  rw [emptyRule?_predictiveTable]
  simp only [PredictiveTable.emptyEntries, predictiveTable, List.mem_filterMap, List.mem_map,
    exists_exists_and_eq_and, Option.map_eq_some_iff, Prod.mk.injEq, Option.bind_eq_some_iff,
    production?_eq_some wf, and_assoc]
  constructor
  · rintro ⟨p, hp, i, empty, named, rfl⟩
    exact ⟨p, hp, named, empty⟩
  · rintro ⟨p, hp, named, empty⟩
    exact ⟨p, hp, index, empty, named, rfl⟩

theorem nodup_places (wf : g.WellFormed) (tokens : (g.tokens.map (·.name)).Nodup) :
    g.places.Nodup :=
  wf.states_nodup.product tokens

theorem places_eq (g : Grammar) :
    g.places = g.productions.flatMap fun p => g.tokens.map fun t => (p.lhs, t.name) := by
  rw [places, states, SProd.sprod, List.instSProd]
  simp [List.product, List.flatMap_map, List.map_map, Function.comp_def]

theorem entries_sublist (first : SetTable) :
    ((g.predictiveTable first).entries.map (·.1)).Sublist g.places := by
  have rows : (g.predictiveTable first).entries.map (·.1) = g.productions.flatMap fun p =>
      ((g.tableRow first p).rules.map (·.1)).map fun token => (p.lhs, token) := by
    simp [PredictiveTable.entries, predictiveTable, tableRow, List.flatMap_map, List.map_flatMap,
      List.map_map, Function.comp_def]
  rw [rows, places_eq]
  refine List.Sublist.flatMap_right _ fun p _ => ?_
  have tokens : (g.tableRow first p).rules.map (·.1) =
      (g.tokens.filter fun t => (candidates first t.name p).head?.isSome).map (·.name) :=
    map_fst_filterMap g.tokens fun name => (candidates first name p).head?
  rw [tokens, List.map_map]
  exact List.filter_sublist.map _

theorem emptyEntries_cons (row : TableRow) (table : PredictiveTable) :
    PredictiveTable.emptyEntries (row :: table) =
      (row.empty.map fun index => (row.state, index)).toList ++ table.emptyEntries := by
  rw [PredictiveTable.emptyEntries, List.filterMap_cons]
  cases row.empty <;> rfl

theorem emptyEntries_sublist (first : SetTable) :
    ((g.predictiveTable first).emptyEntries.map (·.1)).Sublist g.states := by
  rw [predictiveTable, states]
  induction g.productions with
  | nil => exact .slnil
  | cons p ps ih =>
      rw [List.map_cons, List.map_cons, emptyEntries_cons, List.map_append,
        ← @List.singleton_append _ p.lhs]
      refine List.Sublist.append ?_ ih
      cases empty : (g.tableRow first p).empty with
      | none => exact List.nil_sublist _
      | some index => exact List.Sublist.refl _

theorem size_eq_entries (table : PredictiveTable) :
    table.size = table.entries.length + table.emptyEntries.length := by
  induction table with
  | nil => rfl
  | cons row table ih =>
      have size : PredictiveTable.size (row :: table) =
          row.rules.length + (if row.empty.isSome then 1 else 0) +
            PredictiveTable.size table := rfl
      have entries : PredictiveTable.entries (row :: table) =
          (row.rules.map fun (token, index) => ((row.state, token), index)) ++
            PredictiveTable.entries table := rfl
      rw [size, ih, entries, emptyEntries_cons, List.length_append, List.length_append,
        List.length_map]
      cases row.empty <;> simp <;> omega

end Entries

section Overlap

variable {first : SetTable} {p : Production} {state token : String}

theorem mem_candidates {i : Nat} : i ∈ candidates first token p ↔
    ∃ a, p.alternatives[i]? = some a ∧ startsWith first token a.symbols = true := by
  simp only [candidates, List.mem_map, List.mem_filter, Prod.exists, List.mem_zipIdx_iff_getElem?,
    exists_eq_right]

theorem candidates_ascending (first : SetTable) (token : String) (p : Production) :
    (candidates first token p).Pairwise (· < ·) := by
  have indices : (candidates first token p).Sublist (p.alternatives.zipIdx.map (·.2)) :=
    List.filter_sublist.map _
  rw [List.zipIdx_map_snd] at indices
  exact List.Pairwise.sublist indices List.pairwise_lt_range'

theorem length_candidates (first : SetTable) (token : String) (p : Production) :
    (candidates first token p).length =
      p.alternatives.countP fun a => startsWith first token a.symbols := by
  rw [candidates, List.length_map, ← List.countP_eq_length_filter]
  conv_rhs => rw [← List.zipIdx_map_fst 0 p.alternatives, List.countP_map]
  rfl

theorem mem_candidates_iff (wf : g.WellFormed) (found : g.production? state = some p) {i : Nat} :
    i ∈ candidates g.firstSets token p ↔
      ∃ a, g.alternative? state i = some a ∧ g.BeginsWith token a := by
  simp only [mem_candidates, alternative?, found, Option.bind_some, startsWith_firstSets wf]

theorem one_lt_candidates_iff (wf : g.WellFormed) (found : g.production? state = some p) :
    1 < (candidates g.firstSets token p).length ↔ g.Overlaps state token := by
  have member : ∀ i, i ∈ candidates g.firstSets token p ↔
      ∃ a, g.alternative? state i = some a ∧ g.BeginsWith token a :=
    fun _ => mem_candidates_iff wf found
  have ascending := candidates_ascending g.firstSets token p
  constructor
  · intro several
    match listed : candidates g.firstSets token p, several with
    | i :: j :: more, _ =>
      rw [listed] at ascending
      obtain ⟨a, ha, begins⟩ := (member i).mp (by simp [listed])
      obtain ⟨b, hb, begins'⟩ := (member j).mp (by simp [listed])
      exact ⟨i, j, a, b, List.rel_of_pairwise_cons ascending List.mem_cons_self, ha, hb, begins,
        begins'⟩
  · rintro ⟨i, j, a, b, apart, ha, hb, begins, begins'⟩
    have hi := (member i).mpr ⟨a, ha, begins⟩
    have hj := (member j).mpr ⟨b, hb, begins'⟩
    match listed : candidates g.firstSets token p with
    | [] => simp [listed] at hi
    | [only] =>
      rw [listed, List.mem_singleton] at hi hj
      omega
    | _ :: _ :: _ => simp

theorem shadowing?_eq_some {s : Shadowing} : shadowing? first p token = some s ↔
    (s.state = p.lhs ∧ s.token = token) ∧
      candidates first token p = s.chosen :: s.shadowed ∧ s.shadowed ≠ [] := by
  obtain ⟨_, _, chosen, shadowed⟩ := s
  rw [shadowing?]
  split
  · next listed =>
      rw [listed]
      simp only [Option.some.injEq, Shadowing.mk.injEq]
      grind
  · next few =>
      refine ⟨nofun, fun ⟨_, listed, other⟩ => ?_⟩
      obtain ⟨next, more, rfl⟩ := List.exists_cons_of_ne_nil other
      exact absurd listed (few _ _ _)

theorem mem_shadowings (wf : g.WellFormed) {s : Shadowing} : s ∈ g.shadowings first ↔
    ∃ p, g.production? s.state = some p ∧ g.isToken s.token = true ∧
      candidates first s.token p = s.chosen :: s.shadowed ∧ s.shadowed ≠ [] := by
  simp only [shadowings, List.mem_flatMap, List.mem_filterMap, shadowing?_eq_some,
    production?_eq_some wf, isToken, List.any_eq_true, beq_iff_eq]
  constructor
  · rintro ⟨p, hp, t, ht, ⟨named, same⟩, listed⟩
    exact ⟨p, ⟨hp, named.symm⟩, ⟨t, ht, same.symm⟩, same ▸ listed⟩
  · rintro ⟨p, ⟨hp, named⟩, ⟨t, ht, same⟩, listed⟩
    exact ⟨p, hp, t, ht, ⟨named.symm, same.symm⟩, same ▸ listed⟩

/-- Rules overlap at declared places only. -/
theorem Overlaps.declared (wf : g.WellFormed) (h : g.Overlaps state token) :
    (∃ p, g.production? state = some p) ∧ g.isToken token = true := by
  obtain ⟨_, _, a, _, _, ha, _, begins, _⟩ := h
  obtain ⟨p, found, -⟩ := Option.bind_eq_some_iff.mp ha
  exact ⟨⟨p, found⟩, begins.isToken wf (hasRule_of_alternative? ha)⟩

theorem exists_shadowing_iff (wf : g.WellFormed) :
    (∃ s ∈ g.shadowings g.firstSets, s.state = state ∧ s.token = token) ↔
      g.Overlaps state token := by
  constructor
  · rintro ⟨s, hs, rfl, rfl⟩
    obtain ⟨p, found, -, listed, others⟩ := (mem_shadowings wf).mp hs
    rw [← one_lt_candidates_iff wf found, listed, List.length_cons]
    exact Nat.succ_lt_succ (List.length_pos_of_ne_nil others)
  · intro overlaps
    obtain ⟨⟨p, found⟩, declared⟩ := overlaps.declared wf
    have several := (one_lt_candidates_iff wf found).mpr overlaps
    match listed : candidates g.firstSets token p, several with
    | chosen :: other :: more, _ =>
      exact ⟨⟨state, token, chosen, other :: more⟩,
        (mem_shadowings wf).mpr ⟨p, found, declared, listed, nofun⟩, rfl, rfl⟩

/-- A shadowing has the rule of the table, and behind it all the others that qualify. -/
theorem shadowed_of_mem (wf : g.WellFormed) {s : Shadowing} (h : s ∈ g.shadowings g.firstSets) :
    (g.predictiveTable g.firstSets).rule? s.state s.token = some s.chosen ∧
      s.shadowed.Pairwise (· < ·) ∧
      ∀ i, i ∈ s.shadowed ↔ s.chosen < i ∧
        ∃ a, g.alternative? s.state i = some a ∧ g.BeginsWith s.token a := by
  obtain ⟨p, found, declared, listed, -⟩ := (mem_shadowings wf).mp h
  have ascending := candidates_ascending g.firstSets s.token p
  rw [listed, List.pairwise_cons] at ascending
  refine ⟨?_, ascending.2, fun i => ?_⟩
  · rw [rule?_predictiveTable, if_pos declared, found, Option.bind_some, ← head?_candidates,
      listed, List.head?_cons]
  · rw [← mem_candidates_iff wf found, listed, List.mem_cons]
    constructor
    · exact fun later => ⟨ascending.1 i later, .inr later⟩
    · rintro ⟨later, rfl | mem⟩
      · exact absurd later (Nat.lt_irrefl _)
      · exact mem

theorem shadowings_sublist (first : SetTable) :
    ((g.shadowings first).map fun s => (s.state, s.token)).Sublist g.places := by
  rw [shadowings, places_eq, List.map_flatMap]
  refine List.Sublist.flatMap_right _ fun p _ => ?_
  induction g.tokens with
  | nil => exact .slnil
  | cons t tokens ih =>
      rw [List.filterMap_cons]
      split
      · exact ih.cons _
      · next s found =>
          obtain ⟨⟨named, same⟩, -⟩ := shadowing?_eq_some.mp found
          rw [List.map_cons, List.map_cons, named, same]
          exact ih.cons_cons _

theorem countP_iff_overlaps (wf : g.WellFormed) (declared : p ∈ g.productions) :
    1 < (p.alternatives.countP fun a => startsWith g.firstSets token a.symbols) ↔
      g.Overlaps p.lhs token := by
  rw [← length_candidates]
  exact one_lt_candidates_iff wf ((production?_eq_some wf).mpr ⟨declared, rfl⟩)

theorem checkOverlap_iff_overlaps (wf : g.WellFormed) :
    g.checkOverlap g.firstSets = .ok () ↔ ∀ state token, ¬g.Overlaps state token := by
  rw [checkOverlap_iff]
  constructor
  · intro few state token overlaps
    obtain ⟨⟨p, found⟩, declared⟩ := overlaps.declared wf
    obtain ⟨t, ht, rfl⟩ : ∃ t ∈ g.tokens, t.name = token := by
      simpa [isToken] using declared
    obtain ⟨hp, rfl⟩ := (production?_eq_some wf).mp found
    exact absurd ((countP_iff_overlaps wf hp).mpr overlaps) (Nat.not_lt.mpr (few p hp t ht))
  · intro none p hp t _
    exact Nat.not_lt.mp fun several => none _ _ ((countP_iff_overlaps wf hp).mp several)

theorem places_eq_map (g : Grammar) :
    g.places = (g.productions.flatMap fun p => g.tokens.map fun t => (p, t.name)).map
      fun (p, token) => (p.lhs, token) := by
  rw [places_eq, List.map_flatMap]
  simp only [List.map_map, Function.comp_def]

theorem fst_mem_of_pairs {pair : Production × String}
    (h : pair ∈ g.productions.flatMap fun p => g.tokens.map fun t => (p, t.name)) :
    pair.1 ∈ g.productions := by
  obtain ⟨p, hp, mem⟩ := List.mem_flatMap.mp h
  obtain ⟨_, -, rfl⟩ := List.mem_map.mp mem
  exact hp

/-- The strict check reports the first place where rules overlap. -/
theorem overlaps_of_checkOverlap (wf : g.WellFormed) {e : GrammarError}
    (failed : g.checkOverlap g.firstSets = .error e) :
    ∃ state token before behind, e = .overlappingRules state token ∧
      g.places = before ++ (state, token) :: behind ∧ g.Overlaps state token ∧
      ∀ place ∈ before, ¬g.Overlaps place.1 place.2 := by
  rw [checkOverlap] at failed
  split at failed
  · next p token found =>
      cases failed
      obtain ⟨several, before, behind, listed, few⟩ := List.find?_eq_some_iff_append.mp found
      have places := places_eq_map g
      have declared : ∀ pair ∈ before ++ (p, token) :: behind, pair.1 ∈ g.productions :=
        fun pair mem => fst_mem_of_pairs (listed ▸ mem)
      rw [listed, List.map_append, List.map_cons] at places
      refine ⟨p.lhs, token, _, _, rfl, places, ?_, ?_⟩
      · have mem := declared (p, token) (List.mem_append_right _ List.mem_cons_self)
        exact (countP_iff_overlaps wf mem).mp (of_decide_eq_true several)
      · intro place hplace
        obtain ⟨⟨q, t⟩, hpair, rfl⟩ := List.mem_map.mp hplace
        have mem := declared (q, t) (List.mem_append_left _ hpair)
        rw [← countP_iff_overlaps wf mem]
        simpa using few (q, t) hpair
  · cases failed

end Overlap

section Notices

open Parsing (Notice tableNotices)

theorem mem_tableNotices_shadowing {first : SetTable} {s : Shadowing} :
    .shadowing s ∈ tableNotices g first ↔ s ∈ g.shadowings first := by
  simp [tableNotices]

theorem warnings_tableNotices (first : SetTable) :
    (tableNotices g first).filter (·.severity = .warning) =
      (g.shadowings first).map .shadowing := by
  have others : [Notice.tableBuilt (g.predictiveTable first).size].filter
      (·.severity = .warning) = [] := rfl
  rw [tableNotices, List.filter_append, others, List.append_nil, List.filter_eq_self]
  simp [Notice.severity]

theorem no_warning_iff (wf : g.WellFormed) :
    (∀ n ∈ tableNotices g g.firstSets, n.severity ≠ .warning) ↔
      ∀ state token, ¬g.Overlaps state token := by
  simp only [← exists_shadowing_iff wf]
  constructor
  · rintro quiet state token ⟨s, hs, -⟩
    exact quiet _ (mem_tableNotices_shadowing.mpr hs) rfl
  · intro none n hn
    rcases List.mem_append.mp hn with hn | hn
    · obtain ⟨s, hs, rfl⟩ := List.mem_map.mp hn
      exact absurd ⟨s, hs, rfl, rfl⟩ (none s.state s.token)
    · rw [List.mem_singleton.mp hn]
      exact nofun

end Notices

/-- A table with the rules that are declared first, and with no other entries. -/
structure PredictiveTable.IsFirstDeclared (g : Grammar) (table : PredictiveTable) : Prop where
  rule : ∀ state token index, table.rule? state token = some index ↔
    g.IsFirstRule state (g.BeginsWith token) index
  empty_iff : ∀ state, (∃ index, table.emptyRule? state = some index) ↔
    g.Derives [.state state] []
  empty : ∀ state index, table.emptyRule? state = some index ↔
    g.IsFirstRule state (fun a => a.symbols = [.epsilon]) index ∨
      (∀ a, g.HasRule state a → a.symbols ≠ [.epsilon]) ∧
        g.IsFirstRule state (fun a => g.Derives a.symbols []) index
  entries : ∀ state token index,
    ((state, token), index) ∈ table.entries ↔ table.rule? state token = some index
  entries_places : (table.entries.map (·.1)).Sublist g.places
  emptyEntries : ∀ state index,
    (state, index) ∈ table.emptyEntries ↔ table.emptyRule? state = some index
  emptyEntries_states : (table.emptyEntries.map (·.1)).Sublist g.states
  size : table.size = table.entries.length + table.emptyEntries.length

/-- The table is that of predictive parsing with priority for the rule declared first. Each
place where rules overlap has one warning, in order, and the strict check reports the first
one; it passes exactly if there is no warning. -/
theorem predictiveTable_exact {patterns : String → Option Text.Matcher} {d : Declarations}
    {g : Grammar} (h : ofDeclarations patterns d = .ok g) :
    (g.predictiveTable g.firstSets).IsFirstDeclared g ∧ g.places.Nodup ∧
    (∀ state token,
      (∃ s, .shadowing s ∈ Parsing.tableNotices g g.firstSets ∧
        s.state = state ∧ s.token = token) ↔ g.Overlaps state token) ∧
    (∀ s, .shadowing s ∈ Parsing.tableNotices g g.firstSets →
      (g.predictiveTable g.firstSets).rule? s.state s.token = some s.chosen ∧
      s.shadowed.Pairwise (· < ·) ∧
      ∀ i, i ∈ s.shadowed ↔ s.chosen < i ∧
        ∃ a, g.alternative? s.state i = some a ∧ g.BeginsWith s.token a) ∧
    (∃ warnings : List Shadowing,
      (Parsing.tableNotices g g.firstSets).filter (·.severity = .warning) =
        warnings.map .shadowing ∧
      (warnings.map fun s => (s.state, s.token)).Sublist g.places) ∧
    ((∀ n ∈ Parsing.tableNotices g g.firstSets, n.severity ≠ .warning) ↔
      g.checkOverlap g.firstSets = .ok ()) ∧
    (∀ e, g.checkOverlap g.firstSets = .error e →
      ∃ state token before behind, e = .overlappingRules state token ∧
        g.places = before ++ (state, token) :: behind ∧ g.Overlaps state token ∧
        ∀ place ∈ before, ¬g.Overlaps place.1 place.2) := by
  have wf := wellFormed_of_ofDeclarations h
  have table : (g.predictiveTable g.firstSets).IsFirstDeclared g :=
    { rule := fun _ _ _ => rule?_iff_isFirstRule wf
      empty_iff := fun _ => exists_emptyRule?_iff wf
      empty := fun _ _ => emptyRule?_iff_isFirstRule wf
      entries := fun _ _ _ => mem_entries wf
      entries_places := entries_sublist _
      emptyEntries := fun _ _ => mem_emptyEntries wf
      emptyEntries_states := emptyEntries_sublist _
      size := size_eq_entries _ }
  refine ⟨table, nodup_places wf (tokenNames_of_ofDeclarations h).1, fun state token => ?_,
    fun s hs => shadowed_of_mem wf (mem_tableNotices_shadowing.mp hs),
    ⟨g.shadowings g.firstSets, warnings_tableNotices _, shadowings_sublist _⟩,
    (no_warning_iff wf).trans (checkOverlap_iff_overlaps wf).symm,
    fun e => overlaps_of_checkOverlap wf⟩
  simp only [mem_tableNotices_shadowing, exists_shadowing_iff wf]

/-- Two rules that can begin with one token, and a state whose empty rule comes behind another
that vanishes. -/
def emptyBehind : Declarations where
  tokens := [⟨"a", "a"⟩, ⟨"b", "b"⟩]
  rules := [.ofWords "s" "O b" "", .ofWords "s" "O a" "", .ofWords "s" "b" "",
    .ofWords "O" "N N" "", .ofWords "O" "EPS" "", .ofWords "N" "a" "", .ofWords "N" "EPS EPS" ""]

theorem predictiveTable_exact_emptyBehind :
    ∃ g, ofDeclarations Pattern.matcher? emptyBehind = .ok g ∧
      g.IsFirstRule "s" (g.BeginsWith "a") 0 ∧ ¬g.Derives [.state "s"] [] ∧
      g.Derives [.state "O"] [] ∧ g.IsFirstRule "O" (fun a => a.symbols = [.epsilon]) 1 ∧
      g.Overlaps "s" "a" ∧ g.Overlaps "s" "b" ∧ ¬g.Overlaps "O" "a" ∧
      g.checkOverlap g.firstSets = .error (.overlappingRules "s" "a") := by
  obtain ⟨g, resolved, forA, forS, literal, forO, pairs, failed⟩ :
      ∃ g, ofDeclarations Pattern.matcher? emptyBehind = .ok g ∧
        (g.predictiveTable g.firstSets).rule? "s" "a" = some 0 ∧
        (g.predictiveTable g.firstSets).emptyRule? "s" = none ∧
        g.alternative? "O" 1 = some ⟨[.epsilon], ""⟩ ∧
        (g.predictiveTable g.firstSets).emptyRule? "O" = some 1 ∧
        g.shadowings g.firstSets = [⟨"s", "a", 0, [1]⟩, ⟨"s", "b", 0, [2]⟩] ∧
        g.checkOverlap g.firstSets = .error (.overlappingRules "s" "a") :=
    ⟨_, rfl, by decide +kernel, by decide +kernel, by decide +kernel, by decide +kernel,
      by decide +kernel, by decide +kernel⟩
  obtain ⟨table, -, warned, -⟩ := predictiveTable_exact resolved
  have warning : ∀ s, .shadowing s ∈ Parsing.tableNotices g g.firstSets ↔
      s = ⟨"s", "a", 0, [1]⟩ ∨ s = ⟨"s", "b", 0, [2]⟩ := by
    simp [mem_tableNotices_shadowing, pairs]
  simp only [warning] at warned
  refine ⟨g, resolved, (table.rule _ _ _).mp forA, fun vanishes => ?_,
    (table.empty_iff _).mp ⟨1, forO⟩, ?_, (warned _ _).mp ⟨_, .inl rfl, rfl, rfl⟩,
    (warned _ _).mp ⟨_, .inr rfl, rfl, rfl⟩, fun overlaps => ?_, failed⟩
  · obtain ⟨index, found⟩ := (table.empty_iff _).mpr vanishes
    rw [forS] at found
    cases found
  · rcases (table.empty _ _).mp forO with first | ⟨none, -⟩
    · exact first
    · exact absurd rfl (none _ (hasRule_of_alternative? literal))
  · obtain ⟨s, rfl | rfl, other, -⟩ := (warned _ _).mpr overlaps <;> exact absurd other (by decide)

end PredictiveParsing.Grammar
