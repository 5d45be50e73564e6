import PredictiveParsing.Grammar.Follow
import PredictiveParsing.Proofs.Grammar.First

/-!
FOLLOW sets are exact. A state in a rule can be followed by what the symbols behind it
begin with and, where all of them can vanish, by what follows the state of the rule.
Every step of a pass keeps to what derivations show; sets that are closed under the rules
miss nothing, since each step of a derivation keeps every state of a form followed.
-/
namespace PredictiveParsing.Grammar

/-- The symbols may end a rule of `lhs` as far as the FOLLOW sets are concerned: each
state among them is followed by what comes behind it in the rule. -/
def Followed (first follow : SetTable) (lhs : String) : List Symbol → Prop
  | [] => True
  | .state name :: more =>
    (∀ x ∈ (firstOfSequence first more).1, x ≠ .epsilon → follow.holds name x = true) ∧
    (.epsilon ∈ (firstOfSequence first more).1 →
      ∀ x, follow.holds lhs x = true → follow.holds name x = true) ∧
    Followed first follow lhs more
  | _ :: more => Followed first follow lhs more

theorem followed_singleton (first follow : SetTable) (state : String) :
    Followed first follow state [.state state] := by
  refine ⟨fun x hx hn => ?_, fun _ x hx => hx, trivial⟩
  exact absurd (by simpa [firstOfSequence] using hx) hn

theorem Followed.tail {first follow : SetTable} {lhs : String} {y : Symbol}
    {more : List Symbol} (h : Followed first follow lhs (y :: more)) :
    Followed first follow lhs more := by
  cases y with
  | token _ | epsilon => exact h
  | state _ => exact h.2.2

/-- The end of input follows the start state, and every rule is closed. -/
structure FollowClosed (g : Grammar) (first follow : SetTable) : Prop where
  start : follow.holds startName .endOfInput = true
  rule : ∀ {state a}, g.HasRule state a → Followed first follow state a.symbols

variable {g : Grammar}

/-- The terminals that FOLLOW sets draw from, with repetitions. -/
def followStock (g : Grammar) : List Terminal :=
  .endOfInput :: g.ruleSymbols.map Symbol.terminal

theorem length_followStock (g : Grammar) : g.followStock.length = g.symbolCount + 1 := by
  simp [followStock, symbolCount_eq]

section Rule

variable {first follow : SetTable} {lhs : String} {symbols : List Symbol}

/-- What a rule of `lhs` puts behind a state that is followed by these symbols in it. -/
def behind (first follow : SetTable) (lhs : String) (more : List Symbol) : List Terminal :=
  (firstOfSequence first more).1.withoutEpsilon ++
    if (firstOfSequence first more).2 then (follow.get? lhs).getD [] else []

theorem followOfRule_state (name : String) (more : List Symbol) :
    followOfRule first lhs (.state name :: more) follow =
      followOfRule first lhs more (follow.add name (behind first follow lhs more)) :=
  rfl

theorem mem_behind {more : List Symbol} {x : Terminal} :
    x ∈ behind first follow lhs more ↔
      (x ∈ (firstOfSequence first more).1 ∧ x ≠ .epsilon) ∨
        (.epsilon ∈ (firstOfSequence first more).1 ∧ follow.holds lhs x = true) := by
  rw [behind, List.mem_append, TerminalSet.mem_withoutEpsilon, ← firstOfSequence_nullable]
  refine or_congr_right ?_
  cases (firstOfSequence first more).2 with
  | false => simp
  | true => cases hg : follow.get? lhs <;> simp [SetTable.holds, hg]

theorem within_followOfRule (wf : g.WellFormed)
    (within : follow.Within g.states g.followStock) (declared : symbols ⊆ g.ruleSymbols)
    (states : ∀ name, .state name ∈ symbols → name ∈ g.states) :
    (followOfRule g.firstSets lhs symbols follow).Within g.states g.followStock := by
  induction symbols generalizing follow with
  | nil => exact within
  | cons y more ih =>
      have hmore : more ⊆ g.ruleSymbols := fun x hx => declared (List.mem_cons_of_mem _ hx)
      have hstates : ∀ name, .state name ∈ more → name ∈ g.states :=
        fun name hm => states name (List.mem_cons_of_mem _ hm)
      cases y with
      | token _ | epsilon => exact ih within hmore hstates
      | state name =>
          refine ih (within.add (states name List.mem_cons_self) fun x hx => ?_) hmore hstates
          rcases mem_behind.mp hx with ⟨hm, hn⟩ | ⟨-, hl⟩
          · rcases List.mem_cons.mp (firstOfSequence_subset (within_firstSets wf) hmore hm) with
              he | ht
            · exact absurd he hn
            · exact List.mem_cons_of_mem _ ht
          · exact within.holds_mem hl

theorem followOfRule_extends (states : ∀ name, .state name ∈ symbols → name ∈ follow.states) :
    SetTable.Extends follow (followOfRule first lhs symbols follow) := by
  induction symbols generalizing follow with
  | nil => exact .refl follow
  | cons y more ih =>
      have hmore : ∀ name, .state name ∈ more → name ∈ follow.states :=
        fun name hm => states name (List.mem_cons_of_mem _ hm)
      cases y with
      | token _ | epsilon => exact ih hmore
      | state name =>
          have grown := SetTable.extends_add (states name List.mem_cons_self)
          exact (grown _).trans (ih fun name hm => (grown _).states_eq ▸ hmore name hm)

/-- Sets that a rule adds nothing to are closed under it. -/
theorem followed_of_fixed (states : ∀ name, .state name ∈ symbols → name ∈ follow.states)
    (fixed : followOfRule first lhs symbols follow = follow) :
    Followed first follow lhs symbols := by
  induction symbols with
  | nil => trivial
  | cons y more ih =>
      have hmore : ∀ name, .state name ∈ more → name ∈ follow.states :=
        fun name hm => states name (List.mem_cons_of_mem _ hm)
      cases y with
      | token _ | epsilon => exact ih hmore fixed
      | state name =>
          rw [followOfRule_state] at fixed
          have grown := SetTable.extends_add (states name List.mem_cons_self)
            (behind first follow lhs more)
          have rest : SetTable.Extends (follow.add name (behind first follow lhs more))
              (followOfRule first lhs more (follow.add name (behind first follow lhs more))) :=
            followOfRule_extends fun name hm => grown.states_eq ▸ hmore name hm
          rw [fixed] at rest
          have same := rest.antisymm grown
          rw [same] at fixed
          refine ⟨fun x hx hn => ?_, fun he x hx => ?_, ih hmore fixed⟩
          · exact SetTable.holds_of_add_eq same (mem_behind.mpr (.inl ⟨hx, hn⟩))
          · exact SetTable.holds_of_add_eq same (mem_behind.mpr (.inr ⟨he, hx⟩))

end Rule

section Passes

variable {follow : SetTable}

theorem within_followPass (wf : g.WellFormed)
    (within : follow.Within g.states g.followStock) :
    (g.followPass g.firstSets follow).Within g.states g.followStock := by
  rw [followPass]
  refine List.foldlRecOn (motive := SetTable.Within g.states g.followStock) _ _ within
    fun table ih p hp => ?_
  refine List.foldlRecOn (motive := SetTable.Within g.states g.followStock) _ _ ih
    fun table ih a ha => ?_
  have rule : g.HasRule p.lhs a := ⟨p, hp, rfl, ha⟩
  exact within_followOfRule wf ih rule.mem_ruleSymbols fun _ hm => wf.state_declared rule hm

private theorem followRule_extends (wf : g.WellFormed) (first : SetTable)
    (h : follow.states = g.states) {p : Production} (hp : p ∈ g.productions)
    {a : Alternative} (ha : a ∈ p.alternatives) :
    SetTable.Extends follow (followOfRule first p.lhs a.symbols follow) :=
  followOfRule_extends fun _ hm => h ▸ wf.state_declared ⟨p, hp, rfl, ha⟩ hm

private theorem followStep_extends (wf : g.WellFormed) (first : SetTable)
    (h : follow.states = g.states) {p : Production} (hp : p ∈ g.productions) :
    SetTable.Extends follow
      (p.alternatives.foldl (fun t a => followOfRule first p.lhs a.symbols t) follow) :=
  SetTable.foldl_extends (fun _ ht _ ha => followRule_extends wf first ht hp ha) h

theorem followPass_extends (wf : g.WellFormed) (first : SetTable)
    (h : follow.states = g.states) :
    SetTable.Extends follow (g.followPass first follow) :=
  SetTable.foldl_extends (fun _ ht _ hp => followStep_extends wf first ht hp) h

theorem within_followStart (wf : g.WellFormed) :
    (g.emptySets.add startName [.endOfInput]).Within g.states g.followStock :=
  (within_emptySets wf _).add wf.start_declared (by simp [followStock])

theorem saturates_followSets (wf : g.WellFormed) :
    SetTable.Saturates (g.followPass g.firstSets) (g.emptySets.add startName [.endOfInput])
      (g.followSets g.firstSets) (g.followSaturation g.firstSets).2 := by
  refine SetTable.saturates_saturate (fun _ h => within_followPass wf h)
    (within_followStart wf) ?_
  have hlen : g.states.length = g.productions.length := List.length_map _
  have hbound := Nat.mul_le_mul (Nat.le_add_right g.productions.length (g.symbolCount + 1))
    (Nat.le_add_right (g.symbolCount + 1) g.firstSets.size)
  rw [length_followStock, hlen]
  rw [Nat.add_right_comm g.symbolCount 1] at hbound
  rw [← Nat.add_assoc] at hbound
  omega

theorem within_followSets (wf : g.WellFormed) :
    (g.followSets g.firstSets).Within g.states g.followStock :=
  (saturates_followSets wf).invariant (fun _ h => within_followPass wf h) (within_followStart wf)

theorem isToken_of_holds_follow (wf : g.WellFormed) {state token : String}
    (h : (g.followSets g.firstSets).holds state (.token token) = true) :
    g.isToken token = true :=
  isToken_of_mem_ruleSymbols wf
    ((List.mem_cons.mp ((within_followSets wf).holds_mem h)).resolve_left nofun)

theorem followPass_followSets (wf : g.WellFormed) :
    g.followPass g.firstSets (g.followSets g.firstSets) = g.followSets g.firstSets :=
  (saturates_followSets wf).fixed (fun _ h => within_followPass wf h)
    (fun _ h => followPass_extends wf _ h.states_eq) (within_followStart wf)

theorem followClosed_followSets (wf : g.WellFormed) :
    g.FollowClosed g.firstSets (g.followSets g.firstSets) := by
  have states := (within_followSets wf).states_eq
  constructor
  · have kept := (saturates_followSets wf).invariant
      (motive := fun t => t.Within g.states g.followStock ∧ t.holds startName .endOfInput = true)
      (fun _ h => ⟨within_followPass wf h.1,
        (followPass_extends wf _ h.1.states_eq).holds h.2⟩)
      ⟨within_followStart wf, by simp⟩
    exact kept.2
  · rintro state a ⟨p, hp, rfl, ha⟩
    have stepFixed := SetTable.foldl_fixed
      (fun _ ht _ hq => followStep_extends wf g.firstSets ht hq) states
      (followPass_followSets wf) p hp
    have ruleFixed := SetTable.foldl_fixed
      (fun _ ht _ hb => followRule_extends wf g.firstSets ht hp hb) states stepFixed a ha
    exact followed_of_fixed
      (fun _ hm => states ▸ wf.state_declared ⟨p, hp, rfl, ha⟩ hm) ruleFixed

end Passes

/-- What membership of a terminal says of a state: a declared state derives a form in
which the token comes right behind the state, or the start state derives a form that
ends in it. -/
def Succeeds (g : Grammar) (state : String) : Terminal → Prop
  | .token t => ∃ lhs ∈ g.states, ∃ before after,
      g.Derives [.state lhs] (before ++ .state state :: .token t :: after)
  | .endOfInput => ∃ before, g.Derives [.state startName] (before ++ [.state state])
  | .epsilon => False

section Soundness

variable {lhs name : String} {a : Alternative} {before more : List Symbol} {x : Terminal}

theorem HasRule.succeeds_of_begins (rule : g.HasRule lhs a)
    (split : a.symbols = before ++ .state name :: more) (begins : g.Begins more x)
    (hx : x ≠ .epsilon) : g.Succeeds name x := by
  have root : g.Derives [.state lhs] (before ++ .state name :: more) := split ▸ rule.derives
  cases x with
  | token t =>
      obtain ⟨rest, hr⟩ := begins
      exact ⟨lhs, rule.state_mem, before, rest, root.trans ((hr.cons _).append_left before)⟩
  | epsilon => exact absurd rfl hx
  | endOfInput => exact begins.elim

/-- What comes behind a state comes behind a state of its rules too, where all that is
in between can vanish. -/
theorem HasRule.succeeds_of_vanish (rule : g.HasRule lhs a)
    (split : a.symbols = before ++ .state name :: more) (vanish : g.Derives more [])
    (h : g.Succeeds lhs x) : g.Succeeds name x := by
  have root : g.Derives [.state lhs] (before ++ [.state name]) := by
    have expanded : g.Derives [.state lhs] (before ++ .state name :: more) :=
      split ▸ rule.derives
    exact expanded.trans ((vanish.cons _).append_left before)
  -- the rule is applied inside the form in which its state was found
  have inside : ∀ u v : List Symbol,
      g.Derives (u ++ .state lhs :: v) (u ++ before ++ .state name :: v) := by
    intro u v
    simpa only [List.append_assoc, List.singleton_append] using
      (root.append_right v).append_left u
  cases x with
  | token t =>
      obtain ⟨top, declared, u, v, derives⟩ := h
      exact ⟨top, declared, u ++ before, v, derives.trans (inside u _)⟩
  | epsilon => exact h
  | endOfInput =>
      obtain ⟨u, derives⟩ := h
      exact ⟨u ++ before, derives.trans (inside u [])⟩

/-- Every member of a set comes behind its state in some derivation. -/
def FollowSound (g : Grammar) (follow : SetTable) : Prop :=
  ∀ state x, follow.holds state x = true → g.Succeeds state x

theorem FollowSound.followOfRule (wf : g.WellFormed) (rule : g.HasRule lhs a)
    {symbols : List Symbol} (split : a.symbols = before ++ symbols) {follow : SetTable}
    (sound : g.FollowSound follow) :
    g.FollowSound (followOfRule g.firstSets lhs symbols follow) := by
  induction symbols generalizing before follow with
  | nil => exact sound
  | cons y more ih =>
      have later : a.symbols = (before ++ [y]) ++ more := by
        rw [split, List.append_assoc, List.singleton_append]
      cases y with
      | token _ | epsilon => exact ih later sound
      | state name =>
          refine ih later fun state x hx => ?_
          rcases (SetTable.holds_add follow name _ state x).mp hx with hx | ⟨rfl, added⟩
          · exact sound state x hx
          · rcases mem_behind.mp added with ⟨hm, hn⟩ | ⟨he, hl⟩
            · exact rule.succeeds_of_begins split ((mem_first_iff wf).mp hm) hn
            · exact rule.succeeds_of_vanish split ((mem_first_iff wf).mp he) (sound lhs x hl)

theorem FollowSound.followPass (wf : g.WellFormed) {follow : SetTable}
    (sound : g.FollowSound follow) : g.FollowSound (g.followPass g.firstSets follow) := by
  rw [Grammar.followPass]
  refine List.foldlRecOn (motive := g.FollowSound) _ _ sound fun table ih p hp => ?_
  refine List.foldlRecOn (motive := g.FollowSound) _ _ ih fun table ih a ha => ?_
  have rule : g.HasRule p.lhs a := ⟨p, hp, rfl, ha⟩
  exact ih.followOfRule wf rule (List.nil_append _).symm

theorem followSound_followSets (wf : g.WellFormed) :
    g.FollowSound (g.followSets g.firstSets) := by
  refine (saturates_followSets wf).invariant (fun _ h => h.followPass wf) fun state x hx => ?_
  rcases (SetTable.holds_add _ startName _ state x).mp hx with absent | ⟨rfl, seeded⟩
  · rw [not_holds_emptySets wf] at absent
    cases absent
  · obtain rfl := List.mem_singleton.mp seeded
    exact ⟨[], .refl _⟩

end Soundness

section Completeness

variable {first follow : SetTable} {lhs : String}

/-- The symbols of a rule stand where its state stood. -/
theorem Followed.append {name : String} {u rest : List Symbol}
    (inner : Followed first follow name u)
    (outer : Followed first follow lhs (.state name :: rest)) :
    Followed first follow lhs (u ++ rest) := by
  obtain ⟨begins, inherited, tail⟩ := outer
  induction u with
  | nil => exact tail
  | cons y u ih =>
      cases y with
      | token _ | epsilon => exact ih inner
      | state other =>
          obtain ⟨begins', inherited', inner⟩ := inner
          refine ⟨fun x hx hn => ?_, fun he x hx => ?_, ih inner⟩
          · rcases mem_firstOfSequence_append.mp hx with ⟨-, hm⟩ | ⟨he, hm⟩
            · exact begins' x hm hn
            · exact inherited' he x (begins x hm hn)
          · rcases mem_firstOfSequence_append.mp he with ⟨bad, -⟩ | ⟨hu, hr⟩
            · exact absurd rfl bad
            · exact inherited' hu x (inherited hr x hx)

theorem Followed.rewrites (closed : g.FirstClosed first)
    (followClosed : g.FollowClosed first follow) {u v : List Symbol}
    (h : Followed first follow lhs u) (step : g.Rewrites u v) :
    Followed first follow lhs v := by
  induction step with
  | expand rule rest => exact (followClosed.rule rule).append h
  | vanish rest => exact h
  | cons y step ih =>
      cases y with
      | token _ | epsilon => exact ih h
      | state name =>
          -- what is rewritten behind a state begins with no more than before
          obtain ⟨begins, inherited, tail⟩ := h
          exact ⟨fun x hx => begins x (closed.rewrites step hx),
            fun he => inherited (closed.rewrites step he), ih tail⟩

theorem Followed.derives (closed : g.FirstClosed first)
    (followClosed : g.FollowClosed first follow) {u v : List Symbol}
    (h : Followed first follow lhs u) (derives : g.Derives u v) :
    Followed first follow lhs v := by
  induction derives with
  | refl => exact h
  | tail _ step ih => exact ih.rewrites closed followClosed step

theorem Followed.of_append {before more : List Symbol}
    (h : Followed first follow lhs (before ++ more)) : Followed first follow lhs more := by
  induction before with
  | nil => exact h
  | cons y before ih => exact ih h.tail

theorem FollowClosed.holds (followClosed : g.FollowClosed first follow)
    (closed : g.FirstClosed first) {state : String} {x : Terminal} (h : g.Succeeds state x) :
    follow.holds state x = true := by
  have followed : ∀ {top : String} {before more : List Symbol},
      g.Derives [.state top] (before ++ .state state :: more) →
      Followed first follow top (.state state :: more) := fun derives =>
    ((followed_singleton first follow _).derives closed followClosed derives).of_append
  cases x with
  | token t =>
      obtain ⟨top, -, before, after, derives⟩ := h
      exact (followed derives).1 (.token t) (by simp [firstOfSequence]) nofun
  | epsilon => exact h.elim
  | endOfInput =>
      obtain ⟨before, derives⟩ := h
      exact (followed derives).2.1 (by simp [firstOfSequence]) _ followClosed.start

end Completeness

theorem holds_follow_iff (wf : g.WellFormed) {state : String} {x : Terminal} :
    (g.followSets g.firstSets).holds state x = true ↔ g.Succeeds state x :=
  ⟨followSound_followSets wf state x,
    (followClosed_followSets wf).holds (firstClosed_firstSets wf)⟩

/-- The passes end by themselves, and the sets they leave tell exactly which tokens can
come right behind a state in what any declared state derives, and whether the state can
come last in what the start state derives. -/
theorem followSets_exact {patterns : String → Option Text.Matcher} {d : Declarations}
    {g : Grammar} (h : ofDeclarations patterns d = .ok g) :
    SetTable.Saturates (g.followPass g.firstSets) (g.emptySets.add startName [.endOfInput])
      (g.followSets g.firstSets) (g.followSaturation g.firstSets).2 ∧
    ∀ state, g.isState state = true →
      ∃ s, (g.followSets g.firstSets).get? state = some s ∧
        (∀ t, .token t ∈ s ↔ ∃ lhs, g.isState lhs = true ∧ ∃ before after,
          g.Derives [.state lhs] (before ++ .state state :: .token t :: after)) ∧
        (.endOfInput ∈ s ↔
          ∃ before, g.Derives [.state startName] (before ++ [.state state])) ∧
        .epsilon ∉ s := by
  have wf := wellFormed_of_ofDeclarations h
  refine ⟨saturates_followSets wf, fun state hs => ?_⟩
  have declared : state ∈ (g.followSets g.firstSets).states :=
    (within_followSets wf).states_eq ▸ isState_iff.mp hs
  obtain ⟨s, hget⟩ := SetTable.get?_isSome declared
  have members : ∀ x, x ∈ s ↔ g.Succeeds state x := by
    intro x
    rw [← holds_follow_iff wf, SetTable.holds_iff]
    simp [hget]
  refine ⟨s, hget, fun t => ?_, members .endOfInput, fun he => (members .epsilon).mp he⟩
  simp only [isState_iff]
  exact members (.token t)

/-- Optional states in a row, one of them repeated, and a state that no derivation from
the start reaches. -/
def optionalStates : Declarations where
  tokens := [⟨"a", "a"⟩, ⟨"b", "b"⟩]
  rules := [.ofWords "s" "A A C" "", .ofWords "A" "a A" "", .ofWords "A" "EPS" "",
    .ofWords "C" "EPS" "", .ofWords "U" "s C b" ""]

theorem followSets_exact_optionalStates :
    ∃ g, ofDeclarations Pattern.matcher? optionalStates = .ok g ∧
      (g.followSaturation g.firstSets).2 = 3 ∧
      (∃ lhs, g.isState lhs = true ∧ ∃ before after,
        g.Derives [.state lhs] (before ++ .state "A" :: .token "b" :: after)) ∧
      (∃ before, g.Derives [.state "s"] (before ++ [.state "A"])) ∧
      ¬∃ lhs, g.isState lhs = true ∧ ∃ before after,
        g.Derives [.state lhs] (before ++ .state "C" :: .token "a" :: after) := by
  obtain ⟨g, resolved, passes, declared, declared', setOfA, setOfC⟩ :
      ∃ g, ofDeclarations Pattern.matcher? optionalStates = .ok g ∧
        (g.followSaturation g.firstSets).2 = 3 ∧
        g.isState "A" = true ∧ g.isState "C" = true ∧
        (g.followSets g.firstSets).get? "A" = some [.token "b", .endOfInput, .token "a"] ∧
        (g.followSets g.firstSets).get? "C" = some [.token "b", .endOfInput] :=
    ⟨_, rfl, by decide +kernel, by decide +kernel, by decide +kernel, by decide +kernel,
      by decide +kernel⟩
  obtain ⟨-, exact_of⟩ := followSets_exact resolved
  obtain ⟨s, hs, tokensA, lastA, -⟩ := exact_of "A" declared
  obtain ⟨u, hu, tokensC, -, -⟩ := exact_of "C" declared'
  obtain rfl := Option.some.inj (setOfA.symm.trans hs)
  obtain rfl := Option.some.inj (setOfC.symm.trans hu)
  refine ⟨g, resolved, passes, ?_, ?_, ?_⟩
  · exact (tokensA "b").mp (by simp)
  · exact lastA.mp (by simp)
  · exact fun behind => absurd ((tokensC "a").mpr behind) (by simp)

end PredictiveParsing.Grammar
