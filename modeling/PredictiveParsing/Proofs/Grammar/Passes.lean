import Mathlib.Logic.Function.Iterate
import PredictiveParsing.Proofs.Grammar.Follow

/-!
The number of passes. FIRST and FOLLOW sets grow by updates of one set at a time, each of which
sees what the updates before it added. No update takes anything away, and every pass but the last
one adds a member, so that there are at most as many passes as the sets have room for members,
and the last one.
-/
namespace PredictiveParsing.Grammar

namespace SetTable

section Members

variable {names : List String} {stock stock' : List Terminal} {table a b : SetTable}

theorem exists_new_member {s t : TerminalSet} (h : s <:+ t) (nodup : t.Nodup)
    (more : s.length < t.length) : ∃ x ∈ t, x ∉ s := by
  obtain ⟨added, rfl⟩ := h
  cases added with
  | nil => exact absurd more (Nat.lt_irrefl _)
  | cons x added =>
      refine ⟨x, by simp, fun hx => ?_⟩
      exact (List.nodup_cons.mp nodup).1 (List.mem_append_right added hx)

theorem state_mem_of_holds {state : String} {x : Terminal} (h : table.holds state x = true) :
    state ∈ table.states := by
  by_contra absent
  rw [holds, get?_eq_none absent] at h
  cases h

theorem holds_of_row (distinct : table.states.Nodup) {row : String × TerminalSet}
    (listed : row ∈ table) {x : Terminal} (hx : x ∈ row.2) : table.holds row.1 x = true := by
  induction table with
  | nil => cases listed
  | cons r table ih =>
      obtain ⟨fresh, distinct⟩ : r.1 ∉ states table ∧ (states table).Nodup :=
        List.nodup_cons.mp distinct
      rw [holds_cons]
      rcases List.mem_cons.mp listed with rfl | listed
      · exact .inl ⟨rfl, hx⟩
      · have mentioned : row.1 ∈ states table := List.mem_map_of_mem listed
        exact .inr ⟨fun same => fresh (same ▸ mentioned), ih distinct listed⟩

/-- What the sets hold tells which terminals they list. -/
theorem Within.of_holds (h : Within names stock table) (distinct : names.Nodup)
    (members : ∀ state x, table.holds state x = true → x ∈ stock') :
    Within names stock' table :=
  ⟨h.states_eq, h.nodup, fun row hr x hx =>
    members row.1 x (holds_of_row (h.states_eq ▸ distinct) hr hx)⟩

/-- A growth that the size shows adds a member to the set of some state. -/
theorem Extends.exists_new (h : Extends a b) (nodup : ∀ row ∈ b, row.2.Nodup)
    (distinct : b.states.Nodup) (more : a.size < b.size) :
    ∃ state x, b.holds state x = true ∧ a.holds state x = false := by
  induction h with
  | nil => exact absurd more (Nat.lt_irrefl _)
  | @cons r r' a b hr rest ih =>
      obtain ⟨here, later⟩ := List.forall_mem_cons.mp nodup
      obtain ⟨fresh, distinct⟩ := List.nodup_cons.mp distinct
      have cons_iff := holds_cons r.1 r.2 a
      have cons_iff' := holds_cons r'.1 r'.2 b
      simp only [← Bool.not_eq_true]
      by_cases grown : r.2.length < r'.2.length
      · obtain ⟨x, added, absent⟩ := exists_new_member hr.2 here grown
        refine ⟨r.1, x, (cons_iff' _ _).mpr (.inl ⟨hr.1, added⟩), fun held => ?_⟩
        rcases (cons_iff _ _).mp held with ⟨-, hx⟩ | ⟨other, -⟩
        · exact absent hx
        · exact other rfl
      · have size_cons : ∀ (row : String × TerminalSet) (t : SetTable),
            size (row :: t) = row.2.length + size t := fun _ _ => rfl
        rw [size_cons, size_cons] at more
        obtain ⟨state, x, added, absent⟩ := ih later distinct (by omega)
        have other : state ≠ r'.1 := by
          rintro rfl
          exact fresh (state_mem_of_holds added)
        refine ⟨state, x, (cons_iff' _ _).mpr (.inr ⟨other, added⟩), fun held => ?_⟩
        rcases (cons_iff _ _).mp held with ⟨same, -⟩ | ⟨-, hx⟩
        · exact other (same.trans hr.1)
        · rw [absent] at hx
          cases hx

end Members

section Passes

variable {β : Type} {pass : SetTable → SetTable} {step : SetTable → β → SetTable}
  {updates : List β} {names : List String} {stock : List Terminal} {start final : SetTable}
  {passes : Nat}

/-- Passes that end with the first one that adds nothing. -/
structure ComesToRest (pass : SetTable → SetTable) (step : SetTable → β → SetTable)
    (updates : List β) (start final : SetTable) (passes : Nat) : Prop where
  /-- A pass makes the updates one after the other. -/
  made : ∀ table, pass table = updates.foldl step table
  pos : 0 < passes
  /-- No set ever shrinks, whatever updates of a pass have been made and whatever follow. -/
  grows : ∀ n (before more : List β), before ++ more <+: updates →
    Extends (before.foldl step (pass^[n] start)) ((before ++ more).foldl step (pass^[n] start))
  /-- A pass that is not the last one adds a member to a set. -/
  adds : ∀ n, n + 1 < passes → ∃ state x,
    (pass^[n + 1] start).holds state x = true ∧ (pass^[n] start).holds state x = false
  /-- The last pass starts from the sets that it ends with, and so does any pass after it. -/
  still : ∀ n, passes ≤ n + 1 → pass^[n] start = final

theorem Saturates.passes_pos (h : Saturates pass start final passes) : 0 < passes := by
  cases h <;> exact Nat.succ_pos _

theorem Saturates.size_lt (h : Saturates pass start final passes) {n : Nat}
    (earlier : n + 1 < passes) : (pass^[n] start).size < (pass^[n + 1] start).size := by
  induction h generalizing n with
  | last _ => omega
  | more grown _ ih =>
      cases n with
      | zero => exact grown
      | succ n => exact ih (by omega)

theorem within_iterate (keeps : ∀ t, Within names stock t → Within names stock (pass t))
    (within : Within names stock start) (n : Nat) : Within names stock (pass^[n] start) := by
  induction n with
  | zero => exact within
  | succ n ih =>
      rw [Function.iterate_succ_apply']
      exact keeps _ ih

section Kept

variable (keeps : ∀ t, Within names stock t → Within names stock (pass t))
  (grows : ∀ t, Within names stock t → Extends t (pass t))

include keeps grows

/-- Each pass but the last one takes room for a member. -/
theorem Saturates.passes_le (h : Saturates pass start final passes)
    (within : Within names stock start) : start.size + passes ≤ final.size + 1 := by
  induction h with
  | last _ => exact Nat.succ_le_succ (grows _ within).size_le
  | more grown _ ih =>
      have rest := ih (keeps _ within)
      omega

theorem Saturates.still (h : Saturates pass start final passes)
    (within : Within names stock start) {n : Nat} (late : passes ≤ n + 1) :
    pass^[n] start = final := by
  induction h generalizing n with
  | last full =>
      have fixed := (grows _ within).eq_of_size_le (Nat.le_of_not_lt full)
      rw [← fixed]
      exact Function.iterate_fixed fixed.symm n
  | more _ rest ih =>
      have pos := rest.passes_pos
      obtain ⟨n, rfl⟩ : ∃ k, n = k + 1 := ⟨n - 1, by omega⟩
      exact ih (keeps _ within) (by omega)

omit grows

/-- A saturation by updates that only add comes to rest. -/
theorem Saturates.comesToRest (made : ∀ table, pass table = updates.foldl step table)
    (adds : ∀ t, t.states = names → ∀ x ∈ updates, Extends t (step t x)) (distinct : names.Nodup)
    (h : Saturates pass start final passes) (within : Within names stock start) :
    ComesToRest pass step updates start final passes := by
  have inside := within_iterate keeps within
  have growsBy : ∀ xs : List β, xs ⊆ updates → ∀ t, t.states = names →
      Extends t (xs.foldl step t) :=
    fun xs sub _ ht => foldl_extends (fun _ hu x hx => adds _ hu x (sub hx)) ht
  have grows : ∀ t, t.states = names → Extends t (pass t) :=
    fun t ht => made t ▸ growsBy updates (List.Subset.refl _) t ht
  refine ⟨made, h.passes_pos, ?_, ?_, fun n late => h.still keeps
    (fun t ht => grows t ht.states_eq) within late⟩
  · intro n before more front
    have sub : before ++ more ⊆ updates := front.subset
    have reached := growsBy before (fun x hx => sub (List.mem_append_left more hx)) _
      (inside n).states_eq
    rw [List.foldl_append]
    exact growsBy more (fun x hx => sub (List.mem_append_right before hx)) _
      (reached.states_eq.symm.trans (inside n).states_eq)
  · intro n earlier
    have next := inside (n + 1)
    have grown : Extends (pass^[n] start) (pass^[n + 1] start) := by
      rw [Function.iterate_succ_apply']
      exact grows _ (inside n).states_eq
    exact grown.exists_new next.nodup (next.states_eq ▸ distinct) (h.size_lt earlier)

end Kept
end Passes

end SetTable

section Updates

variable {g : Grammar} {first follow : SetTable}

/-- What a pass over the FIRST sets does with a production. -/
def firstUpdate (first : SetTable) (p : Production) : SetTable :=
  first.add p.lhs (p.alternatives.flatMap fun a => (firstOfSequence first a.symbols).1)

/-- A state in a rule of `lhs`, and the symbols behind it. -/
structure Occurrence where
  lhs : String
  name : String
  more : List Symbol

def occurrencesIn (lhs : String) : List Symbol → List Occurrence
  | [] => []
  | .state name :: more => ⟨lhs, name, more⟩ :: occurrencesIn lhs more
  | .token _ :: more | .epsilon :: more => occurrencesIn lhs more

/-- The states in the rules, in the order in which a pass over the FOLLOW sets meets them. -/
def occurrences (g : Grammar) : List Occurrence :=
  g.productions.flatMap fun p => p.alternatives.flatMap fun a => occurrencesIn p.lhs a.symbols

/-- What a pass over the FOLLOW sets does with a state in a rule. -/
def followUpdate (first follow : SetTable) (o : Occurrence) : SetTable :=
  follow.add o.name (behind first follow o.lhs o.more)

theorem followOfRule_eq_foldl (lhs : String) (symbols : List Symbol) :
    followOfRule first lhs symbols follow =
      (occurrencesIn lhs symbols).foldl (followUpdate first) follow := by
  induction symbols generalizing follow with
  | nil => rfl
  | cons y more ih =>
      cases y with
      | token _ | epsilon => exact ih
      | state name =>
          rw [followOfRule_state, ih]
          rfl

theorem followPass_eq_foldl (g : Grammar) (first follow : SetTable) :
    g.followPass first follow = g.occurrences.foldl (followUpdate first) follow := by
  simp only [followPass, occurrences, List.foldl_flatMap, followOfRule_eq_foldl]

theorem mem_occurrencesIn {lhs : String} {symbols : List Symbol} {o : Occurrence}
    (h : o ∈ occurrencesIn lhs symbols) : .state o.name ∈ symbols := by
  induction symbols with
  | nil => cases h
  | cons y more ih =>
      cases y with
      | token _ | epsilon => exact List.mem_cons_of_mem _ (ih h)
      | state name =>
          rcases List.mem_cons.mp h with rfl | h
          · exact List.mem_cons_self
          · exact List.mem_cons_of_mem _ (ih h)

theorem mem_states_of_occurrence (wf : g.WellFormed) {o : Occurrence} (h : o ∈ g.occurrences) :
    o.name ∈ g.states := by
  obtain ⟨p, hp, h⟩ := List.mem_flatMap.mp h
  obtain ⟨a, ha, h⟩ := List.mem_flatMap.mp h
  exact wf.state_declared ⟨p, hp, rfl, ha⟩ (mem_occurrencesIn h)

end Updates

section Bounds

variable {g : Grammar}

/-- The tokens of a grammar and one of the two markers. -/
def tokenStock (g : Grammar) (marker : Terminal) : List Terminal :=
  marker :: g.tokens.map fun t => .token t.name

theorem mem_tokenStock_of_isToken {name : String} (h : g.isToken name = true)
    (marker : Terminal) : .token name ∈ g.tokenStock marker := by
  obtain ⟨t, ht, same⟩ := List.any_eq_true.mp h
  exact List.mem_cons_of_mem _ (List.mem_map.mpr ⟨t, ht, by rw [beq_iff_eq.mp same]⟩)

theorem size_le_of_tokenStock {table : SetTable} {marker : Terminal}
    (h : table.Within g.states (g.tokenStock marker)) :
    table.size ≤ g.states.length * (g.tokens.length + 1) := by
  have size := h.size_le
  rwa [tokenStock, List.length_cons, List.length_map] at size

theorem size_firstSets_le (wf : g.WellFormed) :
    g.firstSets.size ≤ g.states.length * (g.tokens.length + 1) := by
  refine @size_le_of_tokenStock _ _ .epsilon
    ((within_firstSets wf).of_holds wf.states_nodup fun state x hx => ?_)
  rcases List.mem_cons.mp ((within_firstSets wf).holds_mem hx) with rfl | member
  · exact List.mem_cons_self
  · cases x with
    | token t => exact mem_tokenStock_of_isToken (isToken_of_mem_ruleSymbols wf member) _
    | epsilon => exact List.mem_cons_self
    | endOfInput => exact ((holds_first_iff wf).mp hx).elim

theorem size_followSets_le (wf : g.WellFormed) :
    (g.followSets g.firstSets).size ≤ g.states.length * (g.tokens.length + 1) := by
  refine @size_le_of_tokenStock _ _ .endOfInput
    ((within_followSets wf).of_holds wf.states_nodup fun state x hx => ?_)
  cases x with
  | token t => exact mem_tokenStock_of_isToken (isToken_of_holds_follow wf hx) _
  | epsilon => exact ((holds_follow_iff wf).mp hx).elim
  | endOfInput => exact List.mem_cons_self

theorem firstSets_comesToRest (wf : g.WellFormed) :
    SetTable.ComesToRest g.firstPass firstUpdate g.productions g.emptySets g.firstSets
      g.firstSaturation.2 :=
  (saturates_firstSets wf).comesToRest (fun _ h => within_firstPass h) (fun _ => rfl)
    (fun _ ht _ hp => SetTable.extends_add (ht ▸ List.mem_map_of_mem hp) _) wf.states_nodup
    (within_emptySets wf g.firstStock)

theorem followSets_comesToRest (wf : g.WellFormed) :
    SetTable.ComesToRest (g.followPass g.firstSets) (followUpdate g.firstSets) g.occurrences
      (g.emptySets.add startName [.endOfInput]) (g.followSets g.firstSets)
      (g.followSaturation g.firstSets).2 :=
  (saturates_followSets wf).comesToRest (fun _ h => within_followPass wf h)
    (followPass_eq_foldl g g.firstSets)
    (fun _ ht _ ho => SetTable.extends_add (ht ▸ mem_states_of_occurrence wf ho) _)
    wf.states_nodup (within_followStart wf)

/-- The passes over the FIRST sets and those over the FOLLOW sets come to rest, and except for the
last one there are at most as many of each as states and tokens, with one marker, can be paired. -/
theorem passes_bounded {patterns : String → Option Text.Matcher} {d : Declarations}
    (h : ofDeclarations patterns d = .ok g) :
    (SetTable.ComesToRest g.firstPass firstUpdate g.productions g.emptySets g.firstSets
        g.firstSaturation.2 ∧
      g.firstSaturation.2 ≤ g.states.length * (g.tokens.length + 1) + 1) ∧
    SetTable.ComesToRest (g.followPass g.firstSets) (followUpdate g.firstSets) g.occurrences
        (g.emptySets.add startName [.endOfInput]) (g.followSets g.firstSets)
        (g.followSaturation g.firstSets).2 ∧
      (g.followSaturation g.firstSets).2 ≤ g.states.length * (g.tokens.length + 1) + 1 := by
  have wf := wellFormed_of_ofDeclarations h
  have first := (saturates_firstSets wf).passes_le (fun _ h => within_firstPass h)
    (fun _ h => firstPass_extends h.states_eq) (within_emptySets wf g.firstStock)
  have follow := (saturates_followSets wf).passes_le (fun _ h => within_followPass wf h)
    (fun _ h => followPass_extends wf _ h.states_eq) (within_followStart wf)
  have room := size_firstSets_le wf
  have room' := size_followSets_le wf
  exact ⟨⟨firstSets_comesToRest wf, by omega⟩, followSets_comesToRest wf, by omega⟩

/-- A left-recursive state that may be left out: each pass over the FIRST sets but the last one
adds one member, so that there are as many as there can be. -/
def optionalRepetition : Declarations where
  tokens := [⟨"a", "a"⟩]
  rules := [.ofWords "s" "s a" "", .ofWords "s" "EPS" ""]

theorem passes_bounded_optionalRepetition :
    ∃ g, ofDeclarations Pattern.matcher? optionalRepetition = .ok g ∧
      g.firstSaturation.2 = g.states.length * (g.tokens.length + 1) + 1 ∧
      g.firstPass^[2] g.emptySets = g.firstSets ∧
      (∃ state x, (g.firstPass^[2] g.emptySets).holds state x = true ∧
        (g.firstPass^[1] g.emptySets).holds state x = false) ∧
      (g.followSaturation g.firstSets).2 ≤ 3 := by
  have resolved : ofDeclarations Pattern.matcher? optionalRepetition = .ok _ := rfl
  obtain ⟨⟨first, -⟩, -, follow⟩ := passes_bounded resolved
  refine ⟨_, resolved, by decide +kernel, ?_, ?_, ?_⟩
  · exact first.still 2 (by decide +kernel)
  · exact first.adds 1 (by decide +kernel)
  · exact follow

end Bounds
end PredictiveParsing.Grammar
