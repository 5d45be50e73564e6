import PredictiveParsing.Grammar.First
import PredictiveParsing.Pattern.Search
import PredictiveParsing.Proofs.Grammar.Derivation
import PredictiveParsing.Proofs.Grammar.Saturation

/-!
FIRST sets are exact. Soundness is kept by every step of a pass, which sees what the
steps before it added; completeness needs only that the sets are closed under the
rules, and follows a derivation backwards from its last form.
-/
namespace PredictiveParsing.Grammar

section Sequence

variable {first : SetTable}

private theorem firstOfSequence_state (state : String) (more : List Symbol) :
    firstOfSequence first (.state state :: more) =
      match first.get? state with
      | none => ([], false)
      | some s =>
        if s.contains .epsilon then
          ((firstOfSequence first more).1.addAll s.withoutEpsilon, (firstOfSequence first more).2)
        else (s, false) :=
  rfl

theorem mem_firstOfSequence_state {state : String} {more : List Symbol} {x : Terminal} :
    x ∈ (firstOfSequence first (.state state :: more)).1 ↔
      (x ≠ .epsilon ∧ first.holds state x = true) ∨
        (first.holds state .epsilon = true ∧ x ∈ (firstOfSequence first more).1) := by
  rw [firstOfSequence_state]
  simp only [SetTable.holds]
  cases first.get? state with
  | none => simp
  | some s =>
      by_cases he : .epsilon ∈ s
      · simp only [List.contains_iff_mem, he, if_true, TerminalSet.mem_addAll,
          TerminalSet.mem_withoutEpsilon]
        tauto
      · have hx : x ∈ s → x ≠ .epsilon := by
          rintro hm rfl
          exact he hm
        simp only [List.contains_iff_mem, he, if_false]
        tauto

/-- The flag of a sequence tells whether epsilon is in its set. -/
theorem firstOfSequence_nullable (symbols : List Symbol) :
    (firstOfSequence first symbols).2 = true ↔
      .epsilon ∈ (firstOfSequence first symbols).1 := by
  induction symbols with
  | nil => simp [firstOfSequence]
  | cons y more ih =>
      cases y with
      | token name => simp [firstOfSequence]
      | epsilon => exact ih
      | state name =>
          rw [mem_firstOfSequence_state, ← ih, firstOfSequence_state, SetTable.holds]
          cases first.get? name with
          | none => simp
          | some s => by_cases he : .epsilon ∈ s <;> simp [he]

theorem mem_firstOfSequence_append {u v : List Symbol} {x : Terminal} :
    x ∈ (firstOfSequence first (u ++ v)).1 ↔
      (x ≠ .epsilon ∧ x ∈ (firstOfSequence first u).1) ∨
        (.epsilon ∈ (firstOfSequence first u).1 ∧ x ∈ (firstOfSequence first v).1) := by
  induction u with
  | nil =>
      have hx : x ∈ (firstOfSequence first []).1 ↔ x = .epsilon := by simp [firstOfSequence]
      have he : .epsilon ∈ (firstOfSequence first []).1 := by simp [firstOfSequence]
      rw [List.nil_append, hx]
      tauto
  | cons y u ih =>
      cases y with
      | token name =>
          simp only [List.cons_append, firstOfSequence, List.mem_singleton, reduceCtorEq,
            false_and, or_false]
          exact ⟨fun h => ⟨by simp [h], h⟩, fun h => h.2⟩
      | epsilon => exact ih
      | state name =>
          rw [List.cons_append, mem_firstOfSequence_state, mem_firstOfSequence_state,
            mem_firstOfSequence_state, ih]
          tauto

end Sequence

/-- What membership of a terminal says of a form: it derives a form that begins with
the token, or it derives nothing at all. -/
def Begins (g : Grammar) (symbols : List Symbol) : Terminal → Prop
  | .token t => ∃ rest, g.Derives symbols (.token t :: rest)
  | .epsilon => g.Derives symbols []
  | .endOfInput => False

variable {g : Grammar}

theorem Begins.of_derives {u v : List Symbol} {x : Terminal} (h : g.Begins v x)
    (k : g.Derives u v) : g.Begins u x := by
  cases x with
  | token t => exact h.imp fun _ hr => k.trans hr
  | epsilon => exact k.trans h
  | endOfInput => exact h

theorem Begins.append {u : List Symbol} {x : Terminal} (h : g.Begins u x)
    (hx : x ≠ .epsilon) (v : List Symbol) : g.Begins (u ++ v) x := by
  cases x with
  | token t =>
      obtain ⟨rest, hr⟩ := h
      exact ⟨rest ++ v, hr.append_right v⟩
  | epsilon => exact absurd rfl hx
  | endOfInput => exact h

/-- Every member of a set begins something that its state derives. -/
def FirstSound (g : Grammar) (first : SetTable) : Prop :=
  ∀ state x, first.holds state x = true → g.Begins [.state state] x

/-- What the rules of a state can begin with is in its set. -/
def FirstClosed (g : Grammar) (first : SetTable) : Prop :=
  ∀ state a, g.HasRule state a → ∀ x ∈ (firstOfSequence first a.symbols).1,
    first.holds state x = true

theorem FirstSound.begins {first : SetTable} (sound : g.FirstSound first)
    {symbols : List Symbol} {x : Terminal} (h : x ∈ (firstOfSequence first symbols).1) :
    g.Begins symbols x := by
  induction symbols with
  | nil =>
      obtain rfl : x = .epsilon := by simpa [firstOfSequence] using h
      exact .refl []
  | cons y more ih =>
      cases y with
      | token name =>
          obtain rfl : x = .token name := by simpa [firstOfSequence] using h
          exact ⟨more, .refl _⟩
      | epsilon => exact (ih h).of_derives (derives_epsilon more)
      | state name =>
          rcases mem_firstOfSequence_state.mp h with ⟨hx, hs⟩ | ⟨he, hm⟩
          · exact (sound name x hs).append hx more
          · have vanish : g.Derives [.state name] [] := sound name .epsilon he
            exact (ih hm).of_derives (vanish.drop more)

theorem FirstSound.firstPass {first : SetTable} (sound : g.FirstSound first) :
    g.FirstSound (g.firstPass first) := by
  rw [Grammar.firstPass]
  -- a step reads the sets that the steps before it in the pass have left
  refine List.foldlRecOn (motive := g.FirstSound) _ _ sound fun table ih p hp => ?_
  intro state x hx
  rcases (SetTable.holds_add table p.lhs _ state x).mp hx with hx | ⟨rfl, hadded⟩
  · exact ih state x hx
  · obtain ⟨a, ha, hm⟩ := List.mem_flatMap.mp hadded
    have rule : g.HasRule p.lhs a := ⟨p, hp, rfl, ha⟩
    exact (ih.begins hm).of_derives rule.derives

theorem FirstClosed.rewrites {first : SetTable} (closed : g.FirstClosed first)
    {u v : List Symbol} (h : g.Rewrites u v) {x : Terminal}
    (hx : x ∈ (firstOfSequence first v).1) : x ∈ (firstOfSequence first u).1 := by
  induction h with
  | expand rule rest =>
      rw [mem_firstOfSequence_state]
      rcases mem_firstOfSequence_append.mp hx with ⟨hn, hm⟩ | ⟨he, hm⟩
      · exact .inl ⟨hn, closed _ _ rule x hm⟩
      · exact .inr ⟨closed _ _ rule _ he, hm⟩
  | vanish rest => exact hx
  | cons y _ ih =>
      cases y with
      | token name => exact hx
      | epsilon => exact ih hx
      | state name =>
          rw [mem_firstOfSequence_state] at hx ⊢
          exact hx.imp_right fun h => ⟨h.1, ih h.2⟩

theorem FirstClosed.derives {first : SetTable} (closed : g.FirstClosed first)
    {u v : List Symbol} (h : g.Derives u v) {x : Terminal}
    (hx : x ∈ (firstOfSequence first v).1) : x ∈ (firstOfSequence first u).1 := by
  induction h with
  | refl => exact hx
  | tail _ step ih => exact ih (closed.rewrites step hx)

theorem FirstClosed.mem {first : SetTable} (closed : g.FirstClosed first)
    {symbols : List Symbol} {x : Terminal} (h : g.Begins symbols x) :
    x ∈ (firstOfSequence first symbols).1 := by
  cases x with
  | token t =>
      obtain ⟨rest, hr⟩ := h
      exact closed.derives hr (by simp [firstOfSequence])
  | epsilon => exact closed.derives h (by simp [firstOfSequence])
  | endOfInput => exact h.elim

section Stock

def ruleSymbols (g : Grammar) : List Symbol :=
  g.productions.flatMap fun p => p.alternatives.flatMap (·.symbols)

/-- A token as a terminal, and epsilon for what is none. -/
def Symbol.terminal : Symbol → Terminal
  | .token name => .token name
  | _ => .epsilon

/-- The terminals that FIRST sets draw from, with repetitions. -/
def firstStock (g : Grammar) : List Terminal :=
  .epsilon :: g.ruleSymbols.map Symbol.terminal

theorem symbolCount_eq (g : Grammar) : g.symbolCount = g.ruleSymbols.length := by
  have inner : ∀ (as : List Alternative) (n : Nat),
      as.foldr (fun a n => a.symbols.length + n) n = (as.flatMap (·.symbols)).length + n := by
    intro as n
    induction as with
    | nil => simp
    | cons a as ih => simp [ih, Nat.add_assoc]
  rw [symbolCount, ruleSymbols]
  induction g.productions with
  | nil => rfl
  | cons p ps ih =>
      rw [List.foldr_cons, ih, inner, List.flatMap_cons, List.length_append]

theorem length_firstStock (g : Grammar) : g.firstStock.length = g.symbolCount + 1 := by
  simp [firstStock, symbolCount_eq]

theorem HasRule.mem_ruleSymbols {state : String} {a : Alternative} (h : g.HasRule state a) :
    a.symbols ⊆ g.ruleSymbols := by
  obtain ⟨p, hp, -, ha⟩ := h
  intro x hx
  exact List.mem_flatMap.mpr ⟨p, hp, List.mem_flatMap.mpr ⟨a, ha, hx⟩⟩

theorem isToken_of_mem_ruleSymbols (wf : g.WellFormed) {token : String}
    (h : .token token ∈ g.ruleSymbols.map Symbol.terminal) : g.isToken token = true := by
  obtain ⟨y, hy, same⟩ := List.mem_map.mp h
  obtain ⟨p, hp, hy⟩ := List.mem_flatMap.mp hy
  obtain ⟨a, ha, hy⟩ := List.mem_flatMap.mp hy
  cases y with
  | token name =>
      cases same
      exact wf.token_declared ⟨p, hp, rfl, ha⟩ hy
  | state _ | epsilon => cases same

theorem firstOfSequence_subset {first : SetTable} {names : List String}
    (within : first.Within names g.firstStock) {symbols : List Symbol}
    (h : symbols ⊆ g.ruleSymbols) : (firstOfSequence first symbols).1 ⊆ g.firstStock := by
  induction symbols with
  | nil => simp [firstOfSequence, firstStock]
  | cons y more ih =>
      have hmore := ih (fun x hx => h (List.mem_cons_of_mem _ hx))
      intro x hx
      cases y with
      | token name =>
          obtain rfl : x = .token name := by simpa [firstOfSequence] using hx
          have hy := h List.mem_cons_self
          exact List.mem_cons_of_mem _ (List.mem_map.mpr ⟨_, hy, rfl⟩)
      | epsilon => exact hmore hx
      | state name =>
          rcases mem_firstOfSequence_state.mp hx with ⟨-, hs⟩ | ⟨-, hm⟩
          · exact within.holds_mem hs
          · exact hmore hm

end Stock

section Passes

private theorem add_nil_of_not_mem {names : List String} {key : String} (h : key ∉ names) :
    SetTable.add (names.map fun s => (s, [])) key [] =
      (names ++ [key]).map fun s => (s, []) := by
  induction names with
  | nil => rfl
  | cons s names ih =>
      have hs : s ≠ key := fun e => h (e ▸ List.mem_cons_self)
      simp only [List.map_cons, SetTable.add, hs, if_false, List.cons_append]
      rw [ih fun hm => h (List.mem_cons_of_mem s hm)]

private theorem foldl_add_nil (names : List String) (ps : List Production)
    (h : (names ++ ps.map (·.lhs)).Nodup) :
    ps.foldl (fun table p => SetTable.add table p.lhs []) (names.map fun s => (s, [])) =
      (names ++ ps.map (·.lhs)).map fun s => (s, []) := by
  induction ps generalizing names with
  | nil => simp
  | cons p ps ih =>
      have hp : p.lhs ∉ names := by
        intro hm
        exact (List.disjoint_of_nodup_append h) hm (by simp)
      rw [List.foldl_cons, add_nil_of_not_mem hp, ih (names ++ [p.lhs]) (by simpa using h)]
      simp

theorem emptySets_eq (wf : g.WellFormed) : g.emptySets = g.states.map fun s => (s, []) := by
  simpa [emptySets, states] using foldl_add_nil [] g.productions wf.states_nodup

theorem within_emptySets (wf : g.WellFormed) (stock : List Terminal) :
    g.emptySets.Within g.states stock := by
  rw [emptySets_eq wf]
  refine ⟨by simp [SetTable.states, Function.comp_def], ?_, ?_⟩
  · intro row hr
    obtain ⟨s, -, rfl⟩ := List.mem_map.mp hr
    exact List.nodup_nil
  · intro row hr
    obtain ⟨s, -, rfl⟩ := List.mem_map.mp hr
    exact List.nil_subset _

theorem not_holds_emptySets (wf : g.WellFormed) (state : String) (x : Terminal) :
    g.emptySets.holds state x = false := by
  rw [emptySets_eq wf]
  induction g.states with
  | nil => rfl
  | cons s names ih =>
      rw [← Bool.not_eq_true, List.map_cons, SetTable.holds_cons, ih]
      simp

theorem within_firstPass {first : SetTable} (within : first.Within g.states g.firstStock) :
    (g.firstPass first).Within g.states g.firstStock := by
  rw [firstPass]
  refine List.foldlRecOn (motive := SetTable.Within g.states g.firstStock) _ _ within
    fun table ih p hp => ?_
  refine ih.add (List.mem_map_of_mem hp) fun x hx => ?_
  obtain ⟨a, ha, hm⟩ := List.mem_flatMap.mp hx
  have rule : g.HasRule p.lhs a := ⟨p, hp, rfl, ha⟩
  exact firstOfSequence_subset ih rule.mem_ruleSymbols hm

private theorem firstStep_extends {first : SetTable} (h : first.states = g.states)
    {p : Production} (hp : p ∈ g.productions) :
    SetTable.Extends first
      (first.add p.lhs (p.alternatives.flatMap fun a => (firstOfSequence first a.symbols).1)) :=
  SetTable.extends_add (h ▸ List.mem_map_of_mem hp) _

theorem firstPass_extends {first : SetTable} (h : first.states = g.states) :
    SetTable.Extends first (g.firstPass first) :=
  SetTable.foldl_extends (fun _ ht _ hp => firstStep_extends ht hp) h

/-- The passes come to an end by themselves, and what they leave are the FIRST sets. -/
theorem saturates_firstSets (wf : g.WellFormed) :
    SetTable.Saturates g.firstPass g.emptySets g.firstSets g.firstSaturation.2 := by
  refine SetTable.saturates_saturate (fun _ h => within_firstPass h)
    (within_emptySets wf g.firstStock) ?_
  have hlen : g.states.length = g.productions.length := List.length_map _
  rw [length_firstStock, hlen]
  omega

theorem within_firstSets (wf : g.WellFormed) : g.firstSets.Within g.states g.firstStock :=
  (saturates_firstSets wf).invariant (fun _ h => within_firstPass h) (within_emptySets wf _)

theorem firstPass_firstSets (wf : g.WellFormed) : g.firstPass g.firstSets = g.firstSets :=
  (saturates_firstSets wf).fixed (fun _ h => within_firstPass h)
    (fun _ h => firstPass_extends h.states_eq) (within_emptySets wf _)

theorem firstSound_firstSets (wf : g.WellFormed) : g.FirstSound g.firstSets := by
  refine (saturates_firstSets wf).invariant (fun _ h => h.firstPass) fun state x hx => ?_
  rw [not_holds_emptySets wf] at hx
  cases hx

theorem firstClosed_firstSets (wf : g.WellFormed) : g.FirstClosed g.firstSets := by
  rintro state a ⟨p, hp, rfl, ha⟩ x hx
  have fixed := SetTable.foldl_fixed (fun _ ht _ hq => firstStep_extends ht hq)
    (within_firstSets wf).states_eq (firstPass_firstSets wf) p hp
  exact SetTable.holds_of_add_eq fixed (List.mem_flatMap.mpr ⟨a, ha, hx⟩)

end Passes

theorem mem_first_iff (wf : g.WellFormed) {symbols : List Symbol} {x : Terminal} :
    x ∈ (firstOfSequence g.firstSets symbols).1 ↔ g.Begins symbols x :=
  ⟨(firstSound_firstSets wf).begins, (firstClosed_firstSets wf).mem⟩

theorem holds_first_iff (wf : g.WellFormed) {state : String} {x : Terminal} :
    g.firstSets.holds state x = true ↔ g.Begins [.state state] x := by
  rw [← mem_first_iff wf, mem_firstOfSequence_state]
  have hx : x ∈ (firstOfSequence g.firstSets []).1 ↔ x = .epsilon := by simp [firstOfSequence]
  rw [hx]
  constructor
  · intro h
    by_cases he : x = .epsilon
    · subst he
      exact .inr ⟨h, rfl⟩
    · exact .inl ⟨he, h⟩
  · rintro (⟨-, h⟩ | ⟨h, rfl⟩) <;> exact h

/-- The passes end by themselves, and the sets they leave tell exactly what a state,
or any sequence of symbols, can begin with and whether it can derive nothing. No rule
is excluded: left recursion, cycles and states that derive no text are allowed. -/
theorem firstSets_exact {patterns : String → Option Text.Matcher} {d : Declarations}
    {g : Grammar} (h : ofDeclarations patterns d = .ok g) :
    SetTable.Saturates g.firstPass g.emptySets g.firstSets g.firstSaturation.2 ∧
    (∀ state, g.isState state = true → ∃ s, g.firstSets.get? state = some s ∧
      (∀ t, .token t ∈ s ↔ ∃ rest, g.Derives [.state state] (.token t :: rest)) ∧
      (.epsilon ∈ s ↔ g.Derives [.state state] []) ∧ .endOfInput ∉ s) ∧
    ∀ symbols,
      (∀ t, .token t ∈ (firstOfSequence g.firstSets symbols).1 ↔
        ∃ rest, g.Derives symbols (.token t :: rest)) ∧
      (.epsilon ∈ (firstOfSequence g.firstSets symbols).1 ↔ g.Derives symbols []) ∧
      .endOfInput ∉ (firstOfSequence g.firstSets symbols).1 ∧
      ((firstOfSequence g.firstSets symbols).2 = true ↔ g.Derives symbols []) := by
  have wf := wellFormed_of_ofDeclarations h
  refine ⟨saturates_firstSets wf, ?_, ?_⟩
  · intro state hs
    have declared : state ∈ g.firstSets.states :=
      (within_firstSets wf).states_eq ▸ isState_iff.mp hs
    obtain ⟨s, hget⟩ := SetTable.get?_isSome declared
    have members : ∀ x, x ∈ s ↔ g.Begins [.state state] x := by
      intro x
      rw [← holds_first_iff wf, SetTable.holds_iff]
      simp [hget]
    exact ⟨s, hget, fun t => members (.token t), members .epsilon,
      fun he => (members .endOfInput).mp he⟩
  · intro symbols
    exact ⟨fun t => @mem_first_iff g wf symbols (.token t), @mem_first_iff g wf symbols .epsilon,
      fun he => (mem_first_iff wf).mp he,
      (firstOfSequence_nullable symbols).trans (@mem_first_iff g wf symbols .epsilon)⟩

/-- A left-recursive state in front of a token, and a state that only derives itself. -/
def leftRecursive : Declarations where
  tokens := [⟨"a", "a"⟩, ⟨"b", "b"⟩]
  rules := [.ofWords "s" "A b" "", .ofWords "A" "A a" "", .ofWords "A" "EPS" "",
    .ofWords "C" "C" ""]

theorem firstSets_exact_leftRecursive :
    ∃ g, ofDeclarations Pattern.matcher? leftRecursive = .ok g ∧
      g.firstSaturation.2 = 4 ∧ (∃ rest, g.Derives [.state "s"] (.token "a" :: rest)) ∧
      g.Derives [.state "A"] [] ∧ ¬g.Derives [.state "C"] [] := by
  have resolved : ofDeclarations Pattern.matcher? leftRecursive = .ok _ := rfl
  obtain ⟨-, -, exact_of⟩ := firstSets_exact resolved
  refine ⟨_, resolved, by decide +kernel, ?_, ?_, ?_⟩
  · exact ((exact_of [.state "s"]).1 "a").mp (by decide +kernel)
  · exact (exact_of [.state "A"]).2.1.mp (by decide +kernel)
  · exact fun h => absurd ((exact_of [.state "C"]).2.1.mpr h) (by decide +kernel)

end PredictiveParsing.Grammar
