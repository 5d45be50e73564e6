import PredictiveParsing.Pattern.Search
import PredictiveParsing.Proofs.Grammar.WellFormed

/-!
What declarations have to satisfy to make a grammar. The requirements are listed in the order
in which they are checked, and an error is that of the first one that is not met. A grammar
keeps all of the declarations, with the rules of a state together and the symbols resolved.
-/
namespace PredictiveParsing.Grammar

/-- A requirement, and how it is reported when it is not met. -/
structure Requirement where
  met : Prop
  fault : GrammarError

/-- The error is that of the first requirement that is not met. -/
def FirstFault (requirements : List Requirement) (e : GrammarError) : Prop :=
  ∃ before r behind, requirements = before ++ r :: behind ∧ (∀ b ∈ before, b.met) ∧
    ¬r.met ∧ e = r.fault

/-- A check of the requirements in order. -/
def Enforces {α : Type} (requirements : List Requirement) : Except GrammarError α → Prop
  | .ok _ => ∀ r ∈ requirements, r.met
  | .error e => FirstFault requirements e

section Enforces

variable {α β : Type} {r : Requirement} {rs more : List Requirement} {e : GrammarError}

theorem FirstFault.append_left (h : FirstFault rs e) : FirstFault (rs ++ more) e := by
  obtain ⟨before, r, behind, rfl, met, unmet, named⟩ := h
  exact ⟨before, r, behind ++ more, by simp, met, unmet, named⟩

theorem FirstFault.append_right (met : ∀ r ∈ rs, r.met) (h : FirstFault more e) :
    FirstFault (rs ++ more) e := by
  obtain ⟨before, r, behind, rfl, met', unmet, named⟩ := h
  exact ⟨rs ++ before, r, behind, by simp, List.forall_mem_append.mpr ⟨met, met'⟩, unmet, named⟩

theorem FirstFault.not_all_met (h : FirstFault rs e) : ¬∀ r ∈ rs, r.met := by
  obtain ⟨before, r, behind, rfl, -, unmet, -⟩ := h
  exact fun met => unmet (met r (by simp))

theorem firstFault_cons (unmet : ¬r.met) : FirstFault (r :: rs) r.fault :=
  ⟨[], r, rs, rfl, nofun, unmet, rfl⟩

theorem enforces_pure (a : α) : Enforces [] (.ok a) :=
  nofun

theorem Enforces.behind {x : Except GrammarError α} (met : ∀ r ∈ rs, r.met)
    (h : Enforces more x) : Enforces (rs ++ more) x := by
  cases x with
  | ok _ => exact List.forall_mem_append.mpr ⟨met, h⟩
  | error _ => exact h.append_right met

theorem Enforces.cons {x : Except GrammarError α} (met : r.met) (h : Enforces rs x) :
    Enforces (r :: rs) x :=
  Enforces.behind (List.forall_mem_singleton.mpr met) h

theorem Enforces.bind {x : Except GrammarError α} {f : α → Except GrammarError β}
    (first : Enforces rs x) (next : ∀ a, x = .ok a → Enforces more (f a)) :
    Enforces (rs ++ more) (x >>= f) := by
  cases x with
  | ok a => exact (next a rfl).behind first
  | error _ => exact first.append_left

theorem Enforces.map {x : Except GrammarError α} (h : Enforces rs x) (f : α → β) :
    Enforces rs (x >>= fun a => pure (f a)) := by
  rw [← List.append_nil rs]
  exact h.bind fun a _ => enforces_pure (f a)

theorem Enforces.mapM {f : α → Except GrammarError β} {requirements : α → List Requirement}
    {xs : List α} (each : ∀ x ∈ xs, Enforces (requirements x) (f x)) :
    Enforces (xs.flatMap requirements) (xs.mapM f) := by
  induction xs with
  | nil => exact enforces_pure _
  | cons x xs ih =>
      obtain ⟨hx, each⟩ := List.forall_mem_cons.mp each
      rw [List.mapM_cons, List.flatMap_cons]
      exact hx.bind fun y _ => (ih each).map _

theorem Enforces.check {c : Prop} [Decidable c] {x : Except GrammarError α}
    (same : r.met ↔ ¬c) (passed : ¬c → Enforces rs x) :
    Enforces (r :: rs) (if c then .error r.fault else x) := by
  split
  · next failed => exact firstFault_cons fun met => same.mp met failed
  · next holds => exact (passed holds).cons (same.mpr holds)

end Enforces

section Requirements

variable (patterns : String → Option Text.Matcher)

/-- The requirements of tokens behind others of the given names. -/
def tokenRequirements (earlier : List String) : List TokenDeclaration → List Requirement
  | [] => []
  | t :: more =>
    ⟨t.name ≠ epsilonName ∧ t.name ≠ endName ∧ t.name ≠ startName, .reservedName t.name⟩ ::
    ⟨t.name ∉ earlier, .duplicateToken t.name⟩ ::
    ⟨∃ matcher, patterns t.pattern = some matcher, .invalidPattern t.name⟩ ::
      tokenRequirements (earlier ++ [t.name]) more

/-- The requirements of a rule apart from its symbols. -/
def headRequirements (d : Declarations) (r : RuleDeclaration) : List Requirement :=
  [⟨r.state ≠ epsilonName ∧ r.state ≠ endName, .reservedName r.state⟩,
    ⟨∀ t ∈ d.tokens, t.name ≠ r.state, .conflictingSymbol r.state⟩,
    ⟨r.symbols ≠ [], .emptyRule r.state⟩]

/-- Whether the name stands for a symbol. -/
def Declared (d : Declarations) (name : String) : Prop :=
  name = epsilonName ∨ (∃ t ∈ d.tokens, t.name = name) ∨ ∃ r ∈ d.rules, r.state = name

/-- The requirements of the symbols in the rules of a state. -/
def symbolRequirements (d : Declarations) (state : String) : List Requirement :=
  (d.rules.filter (·.state == state)).flatMap fun r =>
    r.symbols.map fun name => ⟨Declared d name, .unknownSymbol state name⟩

/-- The requirements in the order of the checks: the start state, the tokens, the heads of the
rules, and the symbols state by state. -/
def requirements (d : Declarations) : List Requirement :=
  [⟨∃ r ∈ d.rules, r.state = startName, .missingStart⟩] ++
    (tokenRequirements patterns [] d.tokens ++
      (d.rules.flatMap (headRequirements d) ++
        (statesOf d.rules).flatMap (symbolRequirements d)))

/-- Declarations that make a grammar. -/
structure WellDeclared (d : Declarations) : Prop where
  start : ∃ r ∈ d.rules, r.state = startName
  token_unreserved : ∀ t ∈ d.tokens,
    t.name ≠ epsilonName ∧ t.name ≠ endName ∧ t.name ≠ startName
  tokens_distinct : (d.tokens.map (·.name)).Nodup
  pattern_valid : ∀ t ∈ d.tokens, ∃ matcher, patterns t.pattern = some matcher
  state_unreserved : ∀ r ∈ d.rules, r.state ≠ epsilonName ∧ r.state ≠ endName
  state_no_token : ∀ r ∈ d.rules, ∀ t ∈ d.tokens, t.name ≠ r.state
  rule_nonempty : ∀ r ∈ d.rules, r.symbols ≠ []
  symbol_declared : ∀ r ∈ d.rules, ∀ name ∈ r.symbols, Declared d name

variable {patterns}

theorem tokenRequirements_met {earlier : List String} {tokens : List TokenDeclaration} :
    (∀ r ∈ tokenRequirements patterns earlier tokens, r.met) ↔
      (∀ t ∈ tokens, t.name ≠ epsilonName ∧ t.name ≠ endName ∧ t.name ≠ startName) ∧
      ((tokens.map (·.name)).Nodup ∧ ∀ t ∈ tokens, t.name ∉ earlier) ∧
      ∀ t ∈ tokens, ∃ matcher, patterns t.pattern = some matcher := by
  induction tokens generalizing earlier with
  | nil => simp [tokenRequirements]
  | cons t more ih =>
      have apart : (∀ u ∈ more, u.name ∉ earlier ++ [t.name]) ↔
          t.name ∉ more.map (·.name) ∧ ∀ u ∈ more, u.name ∉ earlier := by
        simp only [List.mem_append, List.mem_singleton, List.mem_map]
        grind
      simp only [tokenRequirements, List.forall_mem_cons, ih, apart, List.map_cons,
        List.nodup_cons]
      tauto

theorem requirements_met {d : Declarations} :
    (∀ r ∈ requirements patterns d, r.met) ↔ WellDeclared patterns d := by
  simp only [requirements, List.forall_mem_cons, List.forall_mem_append, tokenRequirements_met,
    List.forall_mem_flatMap, headRequirements, symbolRequirements, List.forall_mem_map,
    List.mem_filter, mem_statesOf, beq_iff_eq]
  constructor
  · rintro ⟨⟨start, -⟩, ⟨unreserved, ⟨distinct, -⟩, valid⟩, heads, symbols⟩
    exact
      { start := start
        token_unreserved := unreserved
        tokens_distinct := distinct
        pattern_valid := valid
        state_unreserved := fun r hr => (heads r hr).1
        state_no_token := fun r hr => (heads r hr).2.1
        rule_nonempty := fun r hr => (heads r hr).2.2.1
        symbol_declared := fun r hr => symbols r.state ⟨r, hr, rfl⟩ r ⟨hr, rfl⟩ }
  · intro well
    refine ⟨⟨well.start, nofun⟩, ⟨well.token_unreserved, ⟨well.tokens_distinct, fun _ _ => nofun⟩,
      well.pattern_valid⟩, fun r hr => ?_, fun _ _ r hr => well.symbol_declared r hr.1⟩
    exact ⟨well.state_unreserved r hr, well.state_no_token r hr, well.rule_nonempty r hr, nofun⟩

end Requirements

/-- The definition that a declared token gets. -/
def Defines (patterns : String → Option Text.Matcher) (t : TokenDeclaration)
    (x : TokenDefinition) : Prop :=
  x.name = t.name ∧ x.pattern = t.pattern ∧ patterns t.pattern = some x.matcher

theorem forall₂_of_defineTokens {patterns : String → Option Text.Matcher}
    {defined all : List TokenDefinition} {tokens : List TokenDeclaration}
    (h : defineTokens patterns defined tokens = .ok all) :
    ∃ new, all = defined ++ new ∧ List.Forall₂ (Defines patterns) tokens new := by
  induction tokens generalizing defined with
  | nil =>
      cases h
      exact ⟨[], (List.append_nil _).symm, .nil⟩
  | cons t more ih =>
      rw [defineTokens] at h
      split at h
      · cases h
      · split at h
        · cases h
        · split at h
          · cases h
          · next matcher compiled =>
              obtain ⟨new, rfl, defines⟩ := ih h
              exact ⟨⟨t.name, t.pattern, matcher⟩ :: new, by simp,
                .cons ⟨rfl, rfl, compiled⟩ defines⟩

theorem any_name_iff {patterns : String → Option Text.Matcher} {tokens : List TokenDeclaration}
    {new : List TokenDefinition} (defines : List.Forall₂ (Defines patterns) tokens new)
    (name : String) : new.any (·.name == name) = true ↔ ∃ t ∈ tokens, t.name = name := by
  induction defines with
  | nil => simp
  | cons same _ ih => simp [same.1, ih]

theorem contains_statesOf {rules : List RuleDeclaration} {name : String} :
    (statesOf rules).contains name = true ↔ ∃ r ∈ rules, r.state = name := by
  rw [List.contains_iff_mem, mem_statesOf]

/-- What a declared name stands for. -/
inductive Denotes (d : Declarations) : String → Symbol → Prop
  | epsilon : Denotes d epsilonName .epsilon
  | token {t} : t ∈ d.tokens → Denotes d t.name (.token t.name)
  | state {r} : r ∈ d.rules → Denotes d r.state (.state r.state)

section Checks

variable {patterns : String → Option Text.Matcher} {d : Declarations}

theorem enforces_checkStart :
    Enforces [⟨∃ r ∈ d.rules, r.state = startName, .missingStart⟩] (checkStart d) := by
  rw [checkStart]
  split
  · next found => simpa [Enforces] using found
  · next none => exact firstFault_cons (by simpa using none)

theorem enforces_defineTokens {defined : List TokenDefinition} {tokens : List TokenDeclaration} :
    Enforces (tokenRequirements patterns (defined.map (·.name)) tokens)
      (defineTokens patterns defined tokens) := by
  induction tokens generalizing defined with
  | nil => exact enforces_pure _
  | cons t more ih =>
      rw [tokenRequirements, defineTokens]
      refine .check (by simp) fun _ => .check (by simp) fun _ => ?_
      split
      · next malformed => exact firstFault_cons (by simp [malformed])
      · next matcher compiled =>
          -- the names in front are those of the tokens defined so far
          have next := @ih (defined ++ [⟨t.name, t.pattern, matcher⟩])
          rw [List.map_append] at next
          exact next.cons ⟨matcher, compiled⟩

theorem Denotes.declared {name : String} {x : Symbol} (h : Denotes d name x) :
    Declared d name := by
  cases h with
  | epsilon => exact .inl rfl
  | token ht => exact .inr (.inl ⟨_, ht, rfl⟩)
  | state hr => exact .inr (.inr ⟨_, hr, rfl⟩)

section Names

variable {isToken isState : String → Bool}
  (tokens : ∀ name, isToken name = true ↔ ∃ t ∈ d.tokens, t.name = name)
  (states : ∀ name, isState name = true ↔ ∃ r ∈ d.rules, r.state = name)

include tokens

theorem enforces_checkHeads {rules : List RuleDeclaration} :
    Enforces (rules.flatMap (headRequirements d)) (checkHeads isToken rules) := by
  induction rules with
  | nil => exact enforces_pure _
  | cons r more ih =>
      rw [List.flatMap_cons, checkHeads]
      refine .check (by simp) fun _ => .check (by simp [tokens]) fun _ => .check (by simp) ?_
      exact fun _ => ih

include states

/-- A name is resolved to what it stands for, or is unknown. -/
theorem resolve_cases (state name : String) :
    (∃ x, Denotes d name x ∧ resolve isToken isState state name = .ok x) ∨
      (¬Declared d name ∧
        resolve isToken isState state name = .error (.unknownSymbol state name)) := by
  rw [resolve]
  split
  · next epsilon => exact .inl ⟨_, epsilon ▸ .epsilon, rfl⟩
  · next notEpsilon =>
      split
      · next token =>
          obtain ⟨t, ht, rfl⟩ := (tokens name).mp token
          exact .inl ⟨_, .token ht, rfl⟩
      · next notToken =>
          split
          · next known =>
              obtain ⟨r, hr, rfl⟩ := (states name).mp known
              exact .inl ⟨_, .state hr, rfl⟩
          · next notState =>
              refine .inr ⟨?_, rfl⟩
              rintro (epsilon | token | known)
              · exact notEpsilon epsilon
              · exact notToken ((tokens name).mpr token)
              · exact notState ((states name).mpr known)

theorem denotes_of_resolve {state name : String} {x : Symbol}
    (h : resolve isToken isState state name = .ok x) : Denotes d name x := by
  rcases resolve_cases tokens states state name with ⟨y, denotes, resolved⟩ | ⟨-, failed⟩
  · cases resolved.symm.trans h
    exact denotes
  · cases failed.symm.trans h

theorem enforces_resolve (state name : String) :
    Enforces [⟨Declared d name, .unknownSymbol state name⟩]
      (resolve isToken isState state name) := by
  rcases resolve_cases tokens states state name with ⟨x, denotes, resolved⟩ | ⟨unknown, failed⟩
  · rw [resolved]
    exact List.forall_mem_singleton.mpr denotes.declared
  · rw [failed]
    exact firstFault_cons unknown

theorem enforces_resolveState (state : String) :
    Enforces (symbolRequirements d state) (resolveState isToken isState d.rules state) := by
  refine Enforces.map (.mapM fun r hr => Enforces.map ?_ _) _
  obtain rfl : r.state = state := by simpa using (List.mem_filter.mp hr).2
  rw [List.map_eq_flatMap]
  exact .mapM fun name _ => enforces_resolve tokens states r.state name

end Names

theorem enforces_ofDeclarations (patterns : String → Option Text.Matcher) (d : Declarations) :
    Enforces (requirements patterns d) (ofDeclarations patterns d) := by
  rw [requirements, ofDeclarations]
  refine enforces_checkStart.bind fun _ _ => enforces_defineTokens.bind fun all defined => ?_
  obtain ⟨new, rfl, defines⟩ := forall₂_of_defineTokens defined
  have tokens := any_name_iff defines
  refine (enforces_checkHeads tokens).bind fun _ _ => ?_
  refine Enforces.map (.mapM fun state _ => ?_) _
  exact enforces_resolveState tokens (fun _ => contains_statesOf) state

end Checks

/-- The alternative is the rule with its symbols resolved one for one. -/
def IsResolved (d : Declarations) (r : RuleDeclaration) (a : Alternative) : Prop :=
  List.Forall₂ (Denotes d) r.symbols a.symbols ∧ a.action = r.action

/-- A grammar that has all of the declarations. -/
structure Resolves (patterns : String → Option Text.Matcher) (d : Declarations) (g : Grammar) :
    Prop where
  tokens : List.Forall₂ (Defines patterns) d.tokens g.tokens
  isToken : ∀ name, g.isToken name = true ↔ ∃ t ∈ d.tokens, t.name = name
  isState : ∀ name, g.isState name = true ↔ ∃ r ∈ d.rules, r.state = name
  disjoint : ∀ name, ¬(g.isToken name = true ∧ g.isState name = true)
  states : g.states.Pairwise fun a b =>
    (d.rules.map (·.state)).idxOf a < (d.rules.map (·.state)).idxOf b
  rules : ∀ p ∈ g.productions, List.Forall₂ (IsResolved d)
    (d.rules.filter (·.state == p.lhs)) p.alternatives
  symbol : ∀ name x y, Denotes d name x → Denotes d name y → x = y
  production : ∀ state p, g.production? state = some p ↔ p ∈ g.productions ∧ p.lhs = state
  hasEpsilonRules : g.hasEpsilonRules = true ↔ ∃ r ∈ d.rules, epsilonName ∈ r.symbols

section Resolves

variable {patterns : String → Option Text.Matcher} {d : Declarations} {g : Grammar}

/-- A name stands for one symbol only. -/
theorem Denotes.unique (well : WellDeclared patterns d) {name : String} {x y : Symbol}
    (hx : Denotes d name x) (hy : Denotes d name y) : x = y := by
  have notToken : ∀ t ∈ d.tokens, t.name ≠ epsilonName :=
    fun t ht => (well.token_unreserved t ht).1
  have notState : ∀ r ∈ d.rules, r.state ≠ epsilonName :=
    fun r hr => (well.state_unreserved r hr).1
  generalize same : name = name' at hy
  cases hx with
  | epsilon =>
      cases hy with
      | epsilon => rfl
      | token ht => exact absurd same.symm (notToken _ ht)
      | state hr => exact absurd same.symm (notState _ hr)
  | token ht =>
      cases hy with
      | epsilon => exact absurd same (notToken _ ht)
      | token _ => rw [same]
      | state hr => exact absurd same (well.state_no_token _ hr _ ht)
  | state hr =>
      cases hy with
      | epsilon => exact absurd same (notState _ hr)
      | token ht => exact absurd same.symm (well.state_no_token _ hr _ ht)
      | state _ => rw [same]

theorem mentionsEpsilon_iff (well : WellDeclared patterns d)
    (rules : ∀ p ∈ g.productions, List.Forall₂ (IsResolved d)
      (d.rules.filter (·.state == p.lhs)) p.alternatives)
    (states : ∀ name, g.isState name = true ↔ ∃ r ∈ d.rules, r.state = name) :
    mentionsEpsilon g.productions = true ↔ ∃ r ∈ d.rules, epsilonName ∈ r.symbols := by
  simp only [mentionsEpsilon, List.any_eq_true, List.contains_iff_mem]
  constructor
  · rintro ⟨p, hp, a, ha, mentioned⟩
    obtain ⟨r, hr, symbols, -⟩ := forall₂_right (rules p hp) ha
    obtain ⟨name, hname, denotes⟩ := forall₂_right symbols mentioned
    cases denotes
    exact ⟨r, (List.mem_filter.mp hr).1, hname⟩
  · rintro ⟨r, hr, mentioned⟩
    obtain ⟨p, hp, same⟩ : ∃ p ∈ g.productions, p.lhs = r.state := by
      simpa [isState] using (states r.state).mpr ⟨r, hr, rfl⟩
    have own : r ∈ d.rules.filter (·.state == p.lhs) :=
      List.mem_filter.mpr ⟨hr, by simp [same]⟩
    obtain ⟨a, ha, symbols, -⟩ := forall₂_right (rules p hp).flip own
    obtain ⟨x, hx, denotes⟩ := forall₂_right symbols.flip mentioned
    exact ⟨p, hp, a, ha, denotes.unique well .epsilon ▸ hx⟩

theorem hasEpsilonRules_of_ofDeclarations (h : ofDeclarations patterns d = .ok g) :
    g.hasEpsilonRules = mentionsEpsilon g.productions := by
  obtain ⟨_, -, h⟩ := exists_of_bind_ok h
  obtain ⟨_, -, h⟩ := exists_of_bind_ok h
  obtain ⟨_, -, h⟩ := exists_of_bind_ok h
  obtain ⟨_, -, h⟩ := exists_of_bind_ok h
  cases h
  rfl

theorem resolves_of_ofDeclarations (h : ofDeclarations patterns d = .ok g)
    (well : WellDeclared patterns d) : Resolves patterns d g := by
  obtain ⟨-, defined, -, resolved⟩ := ofDeclarations_ok h
  obtain ⟨new, listed, tokens⟩ := forall₂_of_defineTokens defined
  rw [List.nil_append] at listed
  subst listed
  have isToken := any_name_iff tokens
  have isState : ∀ name, g.isState name = true ↔ ∃ r ∈ d.rules, r.state = name := by
    intro name
    rw [isState_iff, states_of_ofDeclarations h, mem_statesOf]
  have rules : ∀ p ∈ g.productions, List.Forall₂ (IsResolved d)
      (d.rules.filter (·.state == p.lhs)) p.alternatives := by
    intro p hp
    obtain ⟨state, -, hstate⟩ := forall₂_right (forall₂_of_mapM resolved) hp
    obtain ⟨alternatives, each, same⟩ := exists_of_bind_ok hstate
    cases same
    refine (forall₂_of_mapM each).imp fun r a hr => ?_
    obtain ⟨symbols, names, same⟩ := exists_of_bind_ok hr
    cases same
    exact ⟨(forall₂_of_mapM names).imp fun name x => denotes_of_resolve isToken
      fun _ => contains_statesOf, rfl⟩
  refine
    { tokens, isToken, isState, rules
      disjoint := ?_
      states := states_of_ofDeclarations h ▸ pairwise_eraseDups _
      symbol := fun _ _ _ => Denotes.unique well
      production := fun _ _ => production?_eq_some (wellFormed_of_ofDeclarations h)
      hasEpsilonRules := ?_ }
  · rintro name ⟨token, state⟩
    obtain ⟨t, ht, rfl⟩ := (isToken name).mp token
    obtain ⟨r, hr, same⟩ := (isState t.name).mp state
    exact well.state_no_token r hr t ht same.symm
  · rw [hasEpsilonRules_of_ofDeclarations h, mentionsEpsilon_iff well rules isState]

end Resolves

/-- Resolution accepts what is well declared and nothing else, loses nothing of it, and reports
the first requirement that is not met. -/
theorem ofDeclarations_exact (patterns : String → Option Text.Matcher) (d : Declarations) :
    ((∃ g, ofDeclarations patterns d = .ok g) ↔ WellDeclared patterns d) ∧
    ((∀ r ∈ requirements patterns d, r.met) ↔ WellDeclared patterns d) ∧
    (∀ g, ofDeclarations patterns d = .ok g → Resolves patterns d g) ∧
    (∀ e, ofDeclarations patterns d = .error e → FirstFault (requirements patterns d) e) := by
  have enforces := enforces_ofDeclarations patterns d
  have well_of_ok : ∀ g, ofDeclarations patterns d = .ok g → WellDeclared patterns d := by
    intro g h
    rw [h] at enforces
    exact requirements_met.mp enforces
  refine ⟨⟨fun ⟨g, h⟩ => well_of_ok g h, fun well => ?_⟩, requirements_met,
    fun g h => resolves_of_ofDeclarations h (well_of_ok g h), fun e h => ?_⟩
  · cases result : ofDeclarations patterns d with
    | ok g => exact ⟨g, rfl⟩
    | error e =>
        rw [result] at enforces
        exact absurd (requirements_met.mpr well) (FirstFault.not_all_met enforces)
  · rw [h] at enforces
    exact enforces

/-- Rules of two states in turns, the first of which mentions a state declared later. -/
def inTurns : Declarations where
  tokens := [⟨"a", "a"⟩, ⟨"b", "b"⟩]
  rules := [.ofWords "s" "a L" "", .ofWords "L" "b s" "C1", .ofWords "s" "b" "",
    .ofWords "L" "EPS" ""]

/-- Two unknown names, the first of which is in a rule of the second state. -/
def misspelt : Declarations where
  tokens := [⟨"a", "a"⟩]
  rules := [.ofWords "s" "a L" "", .ofWords "L" "aa" "", .ofWords "s" "M" ""]

theorem ofDeclarations_exact_inTurns :
    ∃ g, ofDeclarations Pattern.matcher? inTurns = .ok g ∧
      WellDeclared Pattern.matcher? inTurns ∧ Resolves Pattern.matcher? inTurns g ∧
      g.states = ["s", "L"] ∧ g.hasEpsilonRules = true ∧
      ofDeclarations Pattern.matcher? misspelt = .error (.unknownSymbol "s" "M") ∧
      ¬WellDeclared Pattern.matcher? misspelt ∧
      FirstFault (requirements Pattern.matcher? misspelt) (.unknownSymbol "s" "M") := by
  obtain ⟨g, resolved, states, epsilon⟩ : ∃ g, ofDeclarations Pattern.matcher? inTurns = .ok g ∧
      g.states = ["s", "L"] ∧ g.hasEpsilonRules = true :=
    ⟨_, rfl, by decide +kernel, by decide +kernel⟩
  have failed : ofDeclarations Pattern.matcher? misspelt = .error (.unknownSymbol "s" "M") := rfl
  obtain ⟨accepts, -, resolves, -⟩ := ofDeclarations_exact Pattern.matcher? inTurns
  obtain ⟨rejects, -, -, reports⟩ := ofDeclarations_exact Pattern.matcher? misspelt
  refine ⟨g, resolved, accepts.mp ⟨g, resolved⟩, resolves g resolved, states, epsilon, failed,
    fun well => ?_, reports _ failed⟩
  obtain ⟨g', resolved'⟩ := rejects.mpr well
  rw [failed] at resolved'
  cases resolved'

end PredictiveParsing.Grammar
