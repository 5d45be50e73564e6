import Mathlib.Data.List.Forall2
import Mathlib.Data.List.Nodup
import PredictiveParsing.Grammar.Resolution

/-!
What resolution promises of a grammar: every state has one production, the start
state is among them, and a rule mentions nothing that is not declared. The rules of
a state are then found by its name.
-/
namespace PredictiveParsing

theorem exists_of_bind_ok {α β ε : Type} {x : Except ε α} {f : α → Except ε β} {b : β}
    (h : x >>= f = .ok b) : ∃ a, x = .ok a ∧ f a = .ok b := by
  cases x with
  | error e => cases h
  | ok a => exact ⟨a, rfl, h⟩

theorem forall₂_of_mapM {α β ε : Type} {f : α → Except ε β} {xs : List α} {ys : List β}
    (h : xs.mapM f = .ok ys) : List.Forall₂ (fun x y => f x = .ok y) xs ys := by
  induction xs generalizing ys with
  | nil =>
      cases h
      exact .nil
  | cons x xs ih =>
      rw [List.mapM_cons] at h
      obtain ⟨y, hy, h⟩ := exists_of_bind_ok h
      obtain ⟨rest, hr, h⟩ := exists_of_bind_ok h
      cases h
      exact .cons hy (ih hr)

theorem mapM_of_forall₂ {α β ε : Type} {f : α → Except ε β} {xs : List α} {ys : List β}
    (h : List.Forall₂ (fun x y => f x = .ok y) xs ys) : xs.mapM f = .ok ys := by
  induction h with
  | nil => rfl
  | cons hxy _ ih =>
      rw [List.mapM_cons, hxy, ih]
      rfl

theorem exists_mapM_of_forall {α β ε : Type} {f : α → Except ε β} {xs : List α}
    (h : ∀ x ∈ xs, ∃ y, f x = .ok y) : ∃ ys, xs.mapM f = .ok ys := by
  induction xs with
  | nil => exact ⟨[], rfl⟩
  | cons x xs ih =>
      obtain ⟨⟨y, hy⟩, more⟩ := List.forall_mem_cons.mp h
      obtain ⟨ys, hys⟩ := ih more
      exact ⟨y :: ys, mapM_of_forall₂ (.cons hy (forall₂_of_mapM hys))⟩

section FirstMention

variable {α : Type} [BEq α] [LawfulBEq α]

theorem idxOf_lt_of_filter {p : α → Bool} {a b : α} (ha : p a = true) (hb : p b = true)
    {xs : List α} (h : (xs.filter p).idxOf a < (xs.filter p).idxOf b) :
    xs.idxOf a < xs.idxOf b := by
  induction xs with
  | nil => exact h
  | cons x xs ih =>
      by_cases hx : p x = true
      · rw [List.filter_cons_of_pos hx] at h
        simp only [List.idxOf_cons] at h ⊢
        grind
      · rw [List.filter_cons_of_neg hx] at h
        have apart : ∀ {y}, p y = true → (x == y) = false := by
          intro y hy
          simpa using fun e : x = y => hx (e ▸ hy)
        simp only [List.idxOf_cons, apart ha, apart hb, cond_false]
        exact Nat.succ_lt_succ (ih h)

/-- Without repetitions, what is mentioned first comes first. -/
theorem pairwise_eraseDups : ∀ xs : List α,
    xs.eraseDups.Pairwise fun a b => xs.idxOf a < xs.idxOf b
  | [] => by simp
  | x :: xs => by
      have others : ∀ {y}, y ∈ (xs.filter fun y => !y == x).eraseDups → (!y == x) = true :=
        fun mem => (List.mem_filter.mp (List.mem_eraseDups.mp mem)).2
      have behind : ∀ {y}, (!y == x) = true → (x :: xs).idxOf y = xs.idxOf y + 1 := by
        intro y hy
        exact List.idxOf_cons_ne _ fun e => by simp [e] at hy
      rw [List.eraseDups_cons, List.pairwise_cons]
      refine ⟨fun y mem => ?_, (pairwise_eraseDups _).imp_of_mem fun {a b} ha hb earlier => ?_⟩
      · rw [List.idxOf_cons_self, behind (others mem)]
        exact Nat.succ_pos _
      · rw [behind (others ha), behind (others hb)]
        exact Nat.succ_lt_succ (idxOf_lt_of_filter (p := fun y => !y == x) (others ha) (others hb) earlier)
termination_by xs => xs.length
decreasing_by exact Nat.lt_succ_of_le (List.length_filter_le _ _)

theorem nodup_eraseDups (xs : List α) : xs.eraseDups.Nodup :=
  (pairwise_eraseDups xs).imp fun earlier same => by simp [same] at earlier

end FirstMention

theorem find?_of_nodup {ps : List Grammar.Production} (h : (ps.map (·.lhs)).Nodup)
    {p : Grammar.Production} (hp : p ∈ ps) : ps.find? (·.lhs == p.lhs) = some p := by
  induction ps with
  | nil => cases hp
  | cons q rest ih =>
      rw [List.map_cons, List.nodup_cons] at h
      rcases List.mem_cons.mp hp with rfl | hp
      · simp
      · have hm := List.mem_map_of_mem (f := (·.lhs)) hp
        have hne : (q.lhs == p.lhs) = false := by
          simpa using fun e : q.lhs = p.lhs => h.1 (e ▸ hm)
        rw [List.find?_cons, hne]
        exact ih h.2 hp

theorem forall₂_right {α β : Type} {R : α → β → Prop} {xs : List α} {ys : List β}
    (h : List.Forall₂ R xs ys) {y : β} (hy : y ∈ ys) : ∃ x ∈ xs, R x y := by
  induction h with
  | nil => cases hy
  | cons hr _ ih =>
      rcases List.mem_cons.mp hy with rfl | hy
      · exact ⟨_, List.mem_cons_self, hr⟩
      · obtain ⟨x, hx, hr⟩ := ih hy
        exact ⟨x, List.mem_cons_of_mem _ hx, hr⟩

namespace Grammar

def states (g : Grammar) : List String :=
  g.productions.map (·.lhs)

/-- Whether the alternative is one of the rules of the state. -/
def HasRule (g : Grammar) (state : String) (a : Alternative) : Prop :=
  ∃ p ∈ g.productions, p.lhs = state ∧ a ∈ p.alternatives

def alternative? (g : Grammar) (state : String) (index : Nat) : Option Alternative :=
  (g.production? state).bind fun p => p.alternatives[index]?

/-- A grammar in which every name of a rule is declared, and every state once. -/
structure WellFormed (g : Grammar) : Prop where
  states_nodup : g.states.Nodup
  start_declared : startName ∈ g.states
  token_declared : ∀ {state a name}, g.HasRule state a → .token name ∈ a.symbols →
    g.isToken name = true
  state_declared : ∀ {state a name}, g.HasRule state a → .state name ∈ a.symbols →
    name ∈ g.states

theorem isState_iff {g : Grammar} {state : String} :
    g.isState state = true ↔ state ∈ g.states := by
  simp [isState, states]

theorem production?_eq_some {g : Grammar} (wf : g.WellFormed) {state : String}
    {p : Production} : g.production? state = some p ↔ p ∈ g.productions ∧ p.lhs = state := by
  constructor
  · intro h
    exact ⟨List.mem_of_find?_eq_some h, by simpa using List.find?_some h⟩
  · rintro ⟨hp, rfl⟩
    exact find?_of_nodup wf.states_nodup hp

theorem hasRule_iff {g : Grammar} (wf : g.WellFormed) {state : String} {a : Alternative} :
    g.HasRule state a ↔ ∃ p, g.production? state = some p ∧ a ∈ p.alternatives := by
  simp only [HasRule, production?_eq_some wf, and_assoc]

theorem HasRule.state_mem {g : Grammar} {state : String} {a : Alternative}
    (h : g.HasRule state a) : state ∈ g.states := by
  obtain ⟨p, hp, rfl, -⟩ := h
  exact List.mem_map_of_mem hp

theorem hasRule_of_alternative? {g : Grammar} {state : String} {index : Nat}
    {a : Alternative} (h : g.alternative? state index = some a) : g.HasRule state a := by
  obtain ⟨p, hp, ha⟩ := Option.bind_eq_some_iff.mp h
  exact ⟨p, List.mem_of_find?_eq_some hp, by simpa using List.find?_some hp,
    List.mem_of_getElem? ha⟩

theorem HasRule.alternative? {g : Grammar} (wf : g.WellFormed) {state : String}
    {a : Alternative} (h : g.HasRule state a) :
    ∃ index, g.alternative? state index = some a := by
  obtain ⟨p, hp, ha⟩ := (hasRule_iff wf).mp h
  obtain ⟨index, hi⟩ := List.getElem?_of_mem ha
  exact ⟨index, by simp [Grammar.alternative?, hp, hi]⟩

section Resolution

variable {isToken isState : String → Bool}

private theorem resolve_ok {state name : String} {x : Symbol}
    (h : resolve isToken isState state name = .ok x) :
    (∀ t, x = .token t → isToken t = true) ∧ (∀ s, x = .state s → isState s = true) := by
  rw [resolve] at h
  split at h
  · cases h
    exact ⟨nofun, nofun⟩
  · split at h
    · next ht =>
        cases h
        exact ⟨fun t e => by cases e; exact ht, nofun⟩
    · split at h
      · next hs =>
          cases h
          exact ⟨nofun, fun s e => by cases e; exact hs⟩
      · cases h

private theorem resolveRule_ok {r : RuleDeclaration} {a : Alternative}
    (h : resolveRule isToken isState r = .ok a) {x : Symbol} (hx : x ∈ a.symbols) :
    (∀ t, x = .token t → isToken t = true) ∧ (∀ s, x = .state s → isState s = true) := by
  obtain ⟨symbols, hm, h⟩ := exists_of_bind_ok h
  cases h
  obtain ⟨name, -, hr⟩ := forall₂_right (forall₂_of_mapM hm) hx
  exact resolve_ok hr

private theorem resolveState_ok {rules : List RuleDeclaration} {state : String}
    {p : Production} (h : resolveState isToken isState rules state = .ok p) :
    p.lhs = state ∧ ∀ a ∈ p.alternatives, ∀ x ∈ a.symbols,
      (∀ t, x = .token t → isToken t = true) ∧ (∀ s, x = .state s → isState s = true) := by
  obtain ⟨alternatives, hm, h⟩ := exists_of_bind_ok h
  cases h
  refine ⟨rfl, fun a ha x hx => ?_⟩
  obtain ⟨r, -, hr⟩ := forall₂_right (forall₂_of_mapM hm) ha
  exact resolveRule_ok hr hx

private theorem map_lhs_of_resolveState {rules : List RuleDeclaration} {names : List String}
    {ps : List Production}
    (h : List.Forall₂ (fun name p => resolveState isToken isState rules name = .ok p) names ps) :
    ps.map (·.lhs) = names := by
  induction h with
  | nil => rfl
  | cons hr _ ih => rw [List.map_cons, ih, (resolveState_ok hr).1]

end Resolution

theorem ofDeclarations_ok {patterns : String → Option Text.Matcher} {d : Declarations}
    {g : Grammar} (h : ofDeclarations patterns d = .ok g) :
    checkStart d = .ok () ∧ defineTokens patterns [] d.tokens = .ok g.tokens ∧
      checkHeads g.isToken d.rules = .ok () ∧
      (statesOf d.rules).mapM
        (resolveState g.isToken (statesOf d.rules).contains d.rules) = .ok g.productions := by
  obtain ⟨u, hs, h⟩ := exists_of_bind_ok h
  obtain ⟨tokens, ht, h⟩ := exists_of_bind_ok h
  obtain ⟨u', hh, h⟩ := exists_of_bind_ok h
  obtain ⟨productions, hp, h⟩ := exists_of_bind_ok h
  cases h
  exact ⟨hs, ht, hh, hp⟩

theorem states_of_ofDeclarations {patterns : String → Option Text.Matcher} {d : Declarations}
    {g : Grammar} (h : ofDeclarations patterns d = .ok g) : g.states = statesOf d.rules :=
  map_lhs_of_resolveState (forall₂_of_mapM (ofDeclarations_ok h).2.2.2)

/-- The same declared tokens are resolved to the same ones, whatever the rules are. -/
theorem tokens_of_ofDeclarations {patterns : String → Option Text.Matcher} {d d' : Declarations}
    {g g' : Grammar} (tokens : d'.tokens = d.tokens) (h : ofDeclarations patterns d = .ok g)
    (h' : ofDeclarations patterns d' = .ok g') :
    g'.tokens = g.tokens ∧ g'.isToken = g.isToken := by
  obtain ⟨-, defined, -⟩ := ofDeclarations_ok h
  obtain ⟨-, defined', -⟩ := ofDeclarations_ok h'
  rw [tokens] at defined'
  have same : g'.tokens = g.tokens := Except.ok.inj (defined'.symm.trans defined)
  refine ⟨same, funext fun name => ?_⟩
  rw [isToken, isToken, same]

private theorem defineTokens_ok {patterns : String → Option Text.Matcher}
    {defined tokens : List TokenDefinition} {declared : List TokenDeclaration}
    (h : defineTokens patterns defined declared = .ok tokens)
    (nodup : (defined.map (·.name)).Nodup)
    (free : ∀ t ∈ defined, t.name ≠ epsilonName ∧ t.name ≠ endName) :
    (tokens.map (·.name)).Nodup ∧ ∀ t ∈ tokens, t.name ≠ epsilonName ∧ t.name ≠ endName := by
  induction declared generalizing defined with
  | nil =>
      cases h
      exact ⟨nodup, free⟩
  | cons d more ih =>
      rw [defineTokens] at h
      split at h
      · cases h
      · next unreserved =>
          split at h
          · cases h
          · next fresh =>
              split at h
              · cases h
              · refine ih h ?_ ?_
                · have new : d.name ∉ defined.map (·.name) := by simpa using fresh
                  rw [List.map_append]
                  exact nodup.append (List.nodup_singleton _) (by simpa using new)
                · intro t ht
                  rcases List.mem_append.mp ht with ht | ht
                  · exact free t ht
                  · obtain rfl := List.mem_singleton.mp ht
                    exact ⟨fun e => unreserved (.inl e), fun e => unreserved (.inr (.inl e))⟩

/-- No two tokens have one name, and none has that of a marker. -/
theorem tokenNames_of_ofDeclarations {patterns : String → Option Text.Matcher}
    {d : Declarations} {g : Grammar} (h : ofDeclarations patterns d = .ok g) :
    (g.tokens.map (·.name)).Nodup ∧ ∀ t ∈ g.tokens, t.name ≠ epsilonName ∧ t.name ≠ endName :=
  defineTokens_ok (ofDeclarations_ok h).2.1 .nil nofun

/-- Terminals of declared tokens are told apart by their names. -/
theorem Terminal.eq_of_name_eq {g : Grammar}
    (free : ∀ t ∈ g.tokens, t.name ≠ epsilonName ∧ t.name ≠ endName)
    {x y : Terminal} (hx : ∀ token, x = .token token → g.isToken token = true)
    (hy : ∀ token, y = .token token → g.isToken token = true) (same : x.name = y.name) :
    x = y := by
  have reserved : ∀ {token}, g.isToken token = true →
      token ≠ epsilonName ∧ token ≠ endName := by
    intro token h
    obtain ⟨t, ht, rfl⟩ : ∃ t ∈ g.tokens, t.name = token := by simpa [isToken] using h
    exact free t ht
  cases x with
  | token a =>
      have ha := reserved (hx a rfl)
      cases y with
      | token b => exact congrArg Terminal.token same
      | epsilon => exact absurd same ha.1
      | endOfInput => exact absurd same ha.2
  | epsilon | endOfInput =>
      cases y with
      | token b =>
          have hb := reserved (hy b rfl)
          first | exact absurd same.symm hb.1 | exact absurd same.symm hb.2
      | epsilon | endOfInput => first | rfl | exact absurd same (by decide)

theorem mem_statesOf {rules : List RuleDeclaration} {name : String} :
    name ∈ statesOf rules ↔ ∃ r ∈ rules, r.state = name := by
  rw [statesOf, List.mem_eraseDups, List.mem_map]

theorem ofDeclarations_of_ok {patterns : String → Option Text.Matcher} {d : Declarations}
    {tokens : List TokenDefinition} {productions : List Production} (start : checkStart d = .ok ())
    (defined : defineTokens patterns [] d.tokens = .ok tokens)
    (heads : checkHeads (fun name => tokens.any (·.name == name)) d.rules = .ok ())
    (resolved : (statesOf d.rules).mapM (resolveState (fun name => tokens.any (·.name == name))
      (statesOf d.rules).contains d.rules) = .ok productions) :
    ofDeclarations patterns d = .ok ⟨tokens, productions, mentionsEpsilon productions⟩ := by
  simp only [ofDeclarations, start, defined, heads, resolved, bind, Except.bind, pure, Except.pure]

theorem wellFormed_of_ofDeclarations {patterns : String → Option Text.Matcher}
    {d : Declarations} {g : Grammar} (h : ofDeclarations patterns d = .ok g) :
    g.WellFormed := by
  obtain ⟨hstart, -, -, hp⟩ := ofDeclarations_ok h
  have hrows := forall₂_of_mapM hp
  have hstates := states_of_ofDeclarations h
  have hsymbols : ∀ {state a x}, g.HasRule state a → x ∈ a.symbols →
      (∀ t, x = .token t → g.isToken t = true) ∧
        (∀ s, x = .state s → (statesOf d.rules).contains s = true) := by
    rintro state a x ⟨p, hp, -, ha⟩ hx
    obtain ⟨name, -, hr⟩ := forall₂_right hrows hp
    exact (resolveState_ok hr).2 a ha x hx
  refine ⟨?_, ?_, fun hr hx => (hsymbols hr hx).1 _ rfl, fun hr hx => ?_⟩
  · rw [hstates]
    exact nodup_eraseDups _
  · rw [hstates]
    rw [checkStart] at hstart
    split at hstart
    · next hany => simpa [statesOf] using hany
    · cases hstart
  · rw [hstates]
    simpa using (hsymbols hr hx).2 _ rfl

end Grammar
end PredictiveParsing
