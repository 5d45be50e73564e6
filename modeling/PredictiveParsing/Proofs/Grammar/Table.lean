import PredictiveParsing.Grammar.PredictiveTable
import PredictiveParsing.Proofs.Grammar.First

/-!
What the predictive table holds. An entry is the first rule that can begin with the
token, and a state that can vanish has a rule that can.
-/
namespace PredictiveParsing.Grammar

theorem startsWith_iff {first : SetTable} {token : String} {symbols : List Symbol} :
    startsWith first token symbols = true ↔
      .token token ∈ (firstOfSequence first symbols).1 := by
  induction symbols with
  | nil => simp [startsWith, firstOfSequence]
  | cons y more ih =>
      cases y with
      | token name =>
          simp only [startsWith, firstOfSequence, beq_iff_eq, List.mem_singleton,
            Terminal.token.injEq]
          exact eq_comm
      | epsilon => exact ih
      | state name =>
          rw [mem_firstOfSequence_state, ← ih]
          simp only [SetTable.holds]
          cases hg : first.get? name with
          | none => simp [startsWith, hg]
          | some s =>
              by_cases ht : .token token ∈ s
              · simp [startsWith, hg, ht]
              · by_cases he : .epsilon ∈ s <;> simp [startsWith, hg, ht, he]

/-- The symbol can derive nothing, as far as the sets tell. -/
def Symbol.Vanishes (first : SetTable) : Symbol → Prop
  | .epsilon => True
  | .state name => first.holds name .epsilon = true
  | .token _ => False

/-- What the symbol derives can begin with the token, as far as the sets tell. -/
def Symbol.Opens (first : SetTable) (token : String) : Symbol → Prop
  | .token name => name = token
  | .state name => first.holds name (.token token) = true
  | .epsilon => False

theorem epsilon_mem_firstOfSequence_iff {first : SetTable} {symbols : List Symbol} :
    .epsilon ∈ (firstOfSequence first symbols).1 ↔ ∀ y ∈ symbols, y.Vanishes first := by
  induction symbols with
  | nil => simp [firstOfSequence]
  | cons y more ih =>
      rw [List.forall_mem_cons, ← ih]
      cases y with
      | token name => simp [firstOfSequence, Symbol.Vanishes]
      | epsilon => exact (and_iff_right trivial).symm
      | state name =>
          rw [mem_firstOfSequence_state]
          simp [Symbol.Vanishes]

/-- A token begins the symbols where one of them opens with it and all in front of it vanish. -/
theorem token_mem_firstOfSequence_iff {first : SetTable} {token : String}
    {symbols : List Symbol} :
    .token token ∈ (firstOfSequence first symbols).1 ↔
      ∃ before y more, symbols = before ++ y :: more ∧ (∀ z ∈ before, z.Vanishes first) ∧
        y.Opens first token := by
  constructor
  · intro h
    induction symbols with
    | nil => simp [firstOfSequence] at h
    | cons y more ih =>
        have behind : y.Vanishes first → .token token ∈ (firstOfSequence first more).1 →
            ∃ before z rest, y :: more = before ++ z :: rest ∧ (∀ x ∈ before, x.Vanishes first) ∧
              z.Opens first token := by
          intro vanishes later
          obtain ⟨before, z, rest, rfl, all, opens⟩ := ih later
          exact ⟨y :: before, z, rest, rfl, List.forall_mem_cons.mpr ⟨vanishes, all⟩, opens⟩
        cases y with
        | token name =>
            obtain rfl : token = name := by simpa [firstOfSequence] using h
            exact ⟨[], .token token, more, rfl, List.forall_mem_nil _, rfl⟩
        | epsilon => exact behind trivial h
        | state name =>
            rcases mem_firstOfSequence_state.mp h with ⟨-, here⟩ | ⟨vanishes, later⟩
            · exact ⟨[], .state name, more, rfl, List.forall_mem_nil _, here⟩
            · exact behind vanishes later
  · rintro ⟨before, y, more, rfl, all, opens⟩
    refine mem_firstOfSequence_append.mpr (.inr ⟨epsilon_mem_firstOfSequence_iff.mpr all, ?_⟩)
    cases y with
    | token name =>
        obtain rfl := opens
        exact List.mem_singleton_self _
    | epsilon => exact opens.elim
    | state name => exact mem_firstOfSequence_state.mpr (.inl ⟨Terminal.noConfusion, opens⟩)

/-- The two walks over symbols agree, whatever the sets are: also for states without a set, and
for sets that no grammar has. -/
theorem startsWith_agrees (first : SetTable) (token : String) (symbols : List Symbol) :
    (startsWith first token symbols = true ↔ .token token ∈ (firstOfSequence first symbols).1) ∧
      (startsWith first token symbols = true ↔
        ∃ before y more, symbols = before ++ y :: more ∧ (∀ z ∈ before, z.Vanishes first) ∧
          y.Opens first token) ∧
      ((firstOfSequence first symbols).2 = true ↔
        .epsilon ∈ (firstOfSequence first symbols).1) ∧
      ((firstOfSequence first symbols).2 = true ↔ ∀ y ∈ symbols, y.Vanishes first) :=
  ⟨startsWith_iff, startsWith_iff.trans token_mem_firstOfSequence_iff,
    firstOfSequence_nullable symbols,
    (firstOfSequence_nullable symbols).trans epsilon_mem_firstOfSequence_iff⟩

theorem findIdx?_eq_some {α : Type} {xs : List α} {p : α → Bool} {i : Nat} :
    xs.findIdx? p = some i ↔
      (∃ x, xs[i]? = some x ∧ p x = true) ∧
        ∀ j < i, ∀ y, xs[j]? = some y → p y = false := by
  rw [List.findIdx?_eq_some_iff_getElem]
  constructor
  · rintro ⟨hi, hp, least⟩
    refine ⟨⟨xs[i], List.getElem?_eq_getElem hi, hp⟩, ?_⟩
    intro j hj y hy
    obtain ⟨hl, rfl⟩ := List.getElem?_eq_some_iff.mp hy
    simpa using least j hj
  · rintro ⟨⟨x, hx, hp⟩, least⟩
    obtain ⟨hi, rfl⟩ := List.getElem?_eq_some_iff.mp hx
    refine ⟨hi, hp, fun j hj => ?_⟩
    simp [least j hj xs[j] (List.getElem?_eq_getElem (Nat.lt_trans hj hi))]

theorem head?_candidates (first : SetTable) (token : String) (p : Production) :
    (candidates first token p).head? =
      p.alternatives.findIdx? fun a => startsWith first token a.symbols := by
  rw [candidates, List.head?_map, List.head?_filter, List.findIdx?_eq_fst_find?_zipIdx]

section Rows

variable (g : Grammar) (first : SetTable)

theorem row?_predictiveTable (state : String) :
    (g.predictiveTable first).row? state = (g.production? state).map (g.tableRow first) := by
  simp only [PredictiveTable.row?, predictiveTable, List.find?_map, production?]
  rfl

private theorem lookup_filterMap (tokens : List TokenDefinition) (f : String → Option Nat)
    (token : String) :
    (tokens.filterMap fun t => (f t.name).map fun i => (t.name, i)).lookup token =
      if tokens.any (·.name == token) then f token else none := by
  induction tokens with
  | nil => rfl
  | cons t tokens ih =>
      by_cases ht : t.name = token
      · subst ht
        cases hf : f t.name with
        | none => simp [hf, ih]
        | some i => simp [hf]
      · have hb : (token == t.name) = false := by simpa using Ne.symm ht
        cases hf : f t.name with
        | none => simp [hf, ih, ht]
        | some i => simp [hf, List.lookup_cons, hb, ih, ht]

theorem rule?_predictiveTable (state token : String) :
    (g.predictiveTable first).rule? state token =
      if g.isToken token then
        (g.production? state).bind fun p =>
          p.alternatives.findIdx? fun a => startsWith first token a.symbols
      else none := by
  rw [PredictiveTable.rule?, row?_predictiveTable]
  cases g.production? state with
  | none => simp
  | some p =>
      have := lookup_filterMap g.tokens (fun name => (candidates first name p).head?) token
      simpa [tableRow, isToken, head?_candidates] using this

theorem emptyRule?_predictiveTable (state : String) :
    (g.predictiveTable first).emptyRule? state =
      (g.production? state).bind (emptyAlternative? first) := by
  rw [PredictiveTable.emptyRule?, row?_predictiveTable]
  cases g.production? state <;> rfl

theorem map_fst_filterMap (tokens : List TokenDefinition) (f : String → Option Nat) :
    (tokens.filterMap fun t => (f t.name).map fun i => (t.name, i)).map (·.1) =
      (tokens.filter fun t => (f t.name).isSome).map (·.name) := by
  induction tokens with
  | nil => rfl
  | cons t tokens ih => cases hf : f t.name <;> simp [hf, ih]

theorem expected_predictiveTable (state : String) :
    (g.predictiveTable first).expected state =
      match g.production? state with
      | some p => ((g.tokens.filter fun t =>
          p.alternatives.any fun a => startsWith first t.name a.symbols).map (·.name)).mergeSort
      | none => [] := by
  rw [PredictiveTable.expected, row?_predictiveTable]
  cases g.production? state with
  | none => rfl
  | some p =>
      simp only [Option.map_some, tableRow]
      rw [map_fst_filterMap g.tokens fun name => (candidates first name p).head?]
      simp only [head?_candidates, List.findIdx?_isSome]

end Rows

variable {g : Grammar}

/-- The table has a rule for a state and a token exactly if it is the first of its
alternatives that can begin with the token. -/
theorem rule?_eq_some {first : SetTable} {state token : String} {index : Nat} :
    (g.predictiveTable first).rule? state token = some index ↔
      g.isToken token = true ∧
      (∃ a, g.alternative? state index = some a ∧
        .token token ∈ (firstOfSequence first a.symbols).1) ∧
      ∀ j < index, ∀ b, g.alternative? state j = some b →
        .token token ∉ (firstOfSequence first b.symbols).1 := by
  rw [rule?_predictiveTable]
  simp only [alternative?]
  by_cases ht : g.isToken token = true
  · cases g.production? state with
    | none => simp
    | some p =>
        simp only [ht, if_true, Option.bind_some, findIdx?_eq_some, startsWith_iff, true_and,
          ← Bool.not_eq_true]
  · simp [ht]

theorem isToken_of_mem_first (wf : g.WellFormed) {state : String} {a : Alternative}
    (rule : g.HasRule state a) {token : String}
    (h : .token token ∈ (firstOfSequence g.firstSets a.symbols).1) :
    g.isToken token = true := by
  have stock := firstOfSequence_subset (within_firstSets wf) rule.mem_ruleSymbols h
  exact isToken_of_mem_ruleSymbols wf ((List.mem_cons.mp stock).resolve_left nofun)

theorem holds_first_iff_rule (wf : g.WellFormed) {state : String} {x : Terminal} :
    g.firstSets.holds state x = true ↔
      ∃ a, g.HasRule state a ∧ x ∈ (firstOfSequence g.firstSets a.symbols).1 := by
  constructor
  · intro h
    have begins := (holds_first_iff wf).mp h
    obtain ⟨v, derives, hx⟩ :
        ∃ v, g.Derives [.state state] v ∧ v ≠ [.state state] ∧ g.Begins v x := by
      cases x with
      | token t =>
          obtain ⟨rest, hr⟩ := begins
          exact ⟨_, hr, by simp, rest, .refl _⟩
      | epsilon => exact ⟨[], begins, by simp, .refl []⟩
      | endOfInput => exact begins.elim
    rcases Relation.ReflTransGen.cases_head derives with same | ⟨w, step, rest⟩
    · exact absurd same.symm hx.1
    · cases step with
      | expand rule _ =>
          rw [List.append_nil] at rest
          exact ⟨_, rule, (mem_first_iff wf).mpr (hx.2.of_derives rest)⟩
      | cons _ bad => cases bad
  · rintro ⟨a, rule, hx⟩
    exact firstClosed_firstSets wf state a rule x hx

theorem exists_rule? (wf : g.WellFormed) {state token : String}
    (h : g.firstSets.holds state (.token token) = true) :
    ∃ index, (g.predictiveTable g.firstSets).rule? state token = some index := by
  obtain ⟨a, rule, hx⟩ := (holds_first_iff_rule wf).mp h
  have declared := isToken_of_mem_first wf rule hx
  obtain ⟨p, hp, hl, ha⟩ := rule
  rw [rule?_predictiveTable, if_pos declared, (production?_eq_some wf).mpr ⟨hp, hl⟩,
    Option.bind_some, ← Option.isSome_iff_exists, List.findIdx?_isSome, List.any_eq_true]
  exact ⟨a, ha, startsWith_iff.mpr hx⟩

theorem Alternative.nullable_of_isEpsilon {first : SetTable} {a : Alternative}
    (h : a.isEpsilon = true) : .epsilon ∈ (firstOfSequence first a.symbols).1 := by
  have symbols : a.symbols = [.epsilon] := by simpa [isEpsilon] using h
  rw [symbols]
  simp [firstOfSequence]

theorem emptyRule?_nullable {first : SetTable} {state : String} {index : Nat}
    (h : (g.predictiveTable first).emptyRule? state = some index) :
    ∃ a, g.alternative? state index = some a ∧
      .epsilon ∈ (firstOfSequence first a.symbols).1 := by
  rw [emptyRule?_predictiveTable] at h
  obtain ⟨p, hp, he⟩ := Option.bind_eq_some_iff.mp h
  rw [emptyAlternative?] at he
  split at he
  · rw [alternative?]
    rw [hp, Option.bind_some]
    cases hl : p.epsilonAlternative? with
    | some j =>
        obtain rfl : j = index := by simpa [hl] using he
        obtain ⟨⟨a, ha, heps⟩, -⟩ := findIdx?_eq_some.mp hl
        exact ⟨a, ha, a.nullable_of_isEpsilon heps⟩
    | none =>
        rw [hl, Option.none_or] at he
        obtain ⟨⟨a, ha, hn⟩, -⟩ := findIdx?_eq_some.mp he
        exact ⟨a, ha, (firstOfSequence_nullable a.symbols).mp hn⟩
  · cases he

theorem exists_emptyRule? (wf : g.WellFormed) {state : String}
    (h : g.firstSets.holds state .epsilon = true) :
    ∃ index, (g.predictiveTable g.firstSets).emptyRule? state = some index := by
  obtain ⟨a, ⟨p, hp, rfl, ha⟩, hx⟩ := (holds_first_iff_rule wf).mp h
  rw [emptyRule?_predictiveTable, (production?_eq_some wf).mpr ⟨hp, rfl⟩, Option.bind_some]
  rw [emptyAlternative?]
  rw [if_pos h, ← Option.isSome_iff_exists, Option.isSome_or, List.findIdx?_isSome,
    Bool.or_eq_true, List.any_eq_true]
  exact .inr ⟨a, ha, (firstOfSequence_nullable a.symbols).mpr hx⟩

theorem emptyRule?_isSome (wf : g.WellFormed) {state : String} :
    ((g.predictiveTable g.firstSets).emptyRule? state).isSome = g.firstSets.holds state .epsilon := by
  rw [Bool.eq_iff_iff, Option.isSome_iff_exists]
  refine ⟨?_, exists_emptyRule? wf⟩
  rintro ⟨index, hi⟩
  obtain ⟨a, ha, nullable⟩ := emptyRule?_nullable hi
  exact firstClosed_firstSets wf state a (hasRule_of_alternative? ha) _ nullable

theorem checkOverlap_iff {first : SetTable} : g.checkOverlap first = .ok () ↔
    ∀ p ∈ g.productions, ∀ t ∈ g.tokens,
      (p.alternatives.countP fun a => startsWith first t.name a.symbols) ≤ 1 := by
  rw [checkOverlap]
  split
  · next p token found =>
      have overlaps := List.find?_some found
      obtain ⟨q, hq, hm⟩ := List.mem_flatMap.mp (List.mem_of_find?_eq_some found)
      obtain ⟨t, ht, same⟩ := List.mem_map.mp hm
      cases same
      refine ⟨nofun, fun few => absurd (few p hq t ht) ?_⟩
      simpa using overlaps
  · next none =>
      refine ⟨fun _ p hp t ht => ?_, fun _ => rfl⟩
      have listed : (p, t.name) ∈ g.productions.flatMap fun p => g.tokens.map fun t => (p, t.name) :=
        List.mem_flatMap.mpr ⟨p, hp, List.mem_map_of_mem ht⟩
      simpa using List.find?_eq_none.mp none _ listed

/-- Without overlap a token begins one rule of a state at most. -/
theorem eq_of_checkOverlap (wf : g.WellFormed) (checked : g.checkOverlap g.firstSets = .ok ())
    {state token : String} {a b : Alternative} (rule : g.HasRule state a)
    (rule' : g.HasRule state b) (ha : .token token ∈ (firstOfSequence g.firstSets a.symbols).1)
    (hb : .token token ∈ (firstOfSequence g.firstSets b.symbols).1) : a = b := by
  obtain ⟨t, ht, rfl⟩ : ∃ t ∈ g.tokens, t.name = token := by
    simpa [isToken] using isToken_of_mem_first wf rule ha
  obtain ⟨p, hp, mem⟩ := (hasRule_iff wf).mp rule
  obtain ⟨q, hq, mem'⟩ := (hasRule_iff wf).mp rule'
  obtain rfl : q = p := Option.some.inj (hq.symm.trans hp)
  have few := checkOverlap_iff.mp checked q ((production?_eq_some wf).mp hq).1 t ht
  rw [List.countP_eq_length_filter] at few
  have listed : ∀ {c}, c ∈ q.alternatives → .token t.name ∈ (firstOfSequence g.firstSets c.symbols).1 →
      c ∈ q.alternatives.filter fun c => startsWith g.firstSets t.name c.symbols :=
    fun mem hc => List.mem_filter.mpr ⟨mem, startsWith_iff.mpr hc⟩
  obtain ⟨c, single⟩ := List.length_eq_one_iff.mp
    (Nat.le_antisymm few (List.length_pos_of_mem (listed mem ha)))
  rw [single] at listed
  exact (List.mem_singleton.mp (listed mem ha)).trans (List.mem_singleton.mp (listed mem' hb)).symm

end PredictiveParsing.Grammar
