import PredictiveParsing.Parsing.Run
import PredictiveParsing.Proofs.Grammar.Follow
import PredictiveParsing.Proofs.Grammar.Table

/-!
What compilation promises. The sets and the table are those of the grammar, every
rule is prepared from the alternative at its own place, and the rule selected for a
terminal ahead is one that the FIRST and FOLLOW sets allow.
-/
namespace PredictiveParsing.Parsing

open Grammar (Alternative Production Terminal firstOfSequence)

variable {V P : Type}

namespace Compiled

/-- A compiled grammar whose parts belong together. -/
structure WellFormed (c : Compiled V P) : Prop where
  grammar : c.grammar.WellFormed
  first_eq : c.first = c.grammar.firstSets
  follow_eq : c.follow = c.grammar.followSets c.grammar.firstSets
  table_eq : c.table = c.grammar.predictiveTable c.grammar.firstSets
  rules_eq : c.grammar.productions.mapM (prepareState c.evaluator c.options) = .ok c.rules

private theorem ofGrammar_ok {evaluator : Action.Evaluator V P} {options : Options}
    {g : Grammar} {c : Compiled V P} (h : ofGrammar evaluator options g = .ok c) :
    c.grammar = g ∧ c.first = g.firstSets ∧ c.follow = g.followSets g.firstSets ∧
      c.table = g.predictiveTable g.firstSets ∧ c.evaluator = evaluator ∧ c.options = options ∧
      g.productions.mapM (prepareState evaluator options) = .ok c.rules := by
  obtain ⟨-, -, h⟩ := exists_of_bind_ok h
  obtain ⟨rules, hr, h⟩ : ∃ rules, g.productions.mapM (prepareState evaluator options) = .ok rules ∧
      (pure ⟨g, g.firstSets, g.followSets g.firstSets, g.predictiveTable g.firstSets, rules,
        evaluator, options⟩ : Except Grammar.GrammarError (Compiled V P)) = .ok c := by
    dsimp only at h
    split at h
    · obtain ⟨-, -, h⟩ := exists_of_bind_ok h
      exact exists_of_bind_ok h
    · exact exists_of_bind_ok h
  cases h
  exact ⟨rfl, rfl, rfl, rfl, rfl, rfl, hr⟩

/-- A grammar that compiles is well formed, and keeps what it was compiled with. -/
theorem ofDeclarations_ok {patterns : String → Option Text.Matcher}
    {evaluator : Action.Evaluator V P} {options : Options} {d : Grammar.Declarations}
    {c : Compiled V P} (h : ofDeclarations patterns evaluator options d = .ok c) :
    c.WellFormed ∧ c.evaluator = evaluator ∧ c.options = options ∧
      Grammar.ofDeclarations patterns d = .ok c.grammar := by
  obtain ⟨g, hg, h⟩ := exists_of_bind_ok h
  obtain ⟨rfl, hfirst, hfollow, htable, rfl, rfl, hrules⟩ := ofGrammar_ok h
  exact ⟨⟨Grammar.wellFormed_of_ofDeclarations hg, hfirst, hfollow, htable, hrules⟩,
    rfl, rfl, hg⟩

theorem checkLeftRecursion_of_ofDeclarations {patterns : String → Option Text.Matcher}
    {evaluator : Action.Evaluator V P} {options : Options} {d : Grammar.Declarations}
    {c : Compiled V P} (h : ofDeclarations patterns evaluator options d = .ok c) :
    c.grammar.checkLeftRecursion = .ok () := by
  obtain ⟨g, -, h⟩ := exists_of_bind_ok h
  obtain ⟨rfl, -⟩ := ofGrammar_ok h
  obtain ⟨_, checked, _⟩ := exists_of_bind_ok h
  obtain ⟨_, acyclic, _⟩ := exists_of_bind_ok checked
  exact acyclic

end Compiled

section Rules

variable {evaluator : Action.Evaluator V P} {options : Options}

private theorem prepareRule_ok {state : String} {a : Alternative} {r : Rule P}
    (h : prepareRule evaluator options state a = .ok r) :
    r.alternative = a ∧ evaluator.prepare a.action = .ok r.program ∧
      (options.checkActions = true → evaluator.check r.program a.arity = .ok ()) := by
  rw [prepareRule] at h
  split at h
  · cases h
  · next program hp =>
      split at h
      · split at h
        · cases h
        · next checked =>
            cases h
            exact ⟨rfl, hp, fun _ => checked⟩
      · next off =>
          cases h
          exact ⟨rfl, hp, fun on => absurd on off⟩

private theorem prepareState_ok {p : Production} {row : String × List (Rule P)}
    (h : prepareState evaluator options p = .ok row) :
    row.1 = p.lhs ∧
      List.Forall₂ (fun a r => prepareRule evaluator options p.lhs a = .ok r)
        p.alternatives row.2 := by
  obtain ⟨rules, hm, h⟩ := exists_of_bind_ok h
  cases h
  exact ⟨rfl, forall₂_of_mapM hm⟩

private theorem lookup_of_forall₂ {ps : List Production}
    {rows : List (String × List (Rule P))}
    (h : List.Forall₂ (fun p row => prepareState evaluator options p = .ok row) ps rows)
    (state : String) :
    Option.Rel (fun p rules => List.Forall₂
        (fun a r => prepareRule evaluator options p.lhs a = .ok r) p.alternatives rules)
      (ps.find? (·.lhs == state)) (rows.lookup state) := by
  induction h with
  | nil => exact .none
  | @cons p row ps rows hrow _ ih =>
      obtain ⟨hname, hrules⟩ := prepareState_ok hrow
      obtain ⟨name, rules⟩ := row
      by_cases hs : p.lhs = state
      · have hn : (state == name) = true := by simpa [← hs] using hname.symm
        simp only [List.find?_cons, hs, beq_self_eq_true, List.lookup_cons, hn]
        exact .some hrules
      · have hp : (p.lhs == state) = false := by simpa using hs
        have hn : (state == name) = false := by
          simpa using fun e : state = name => hs (e.trans hname).symm
        simpa only [List.find?_cons, hp, List.lookup_cons, hn] using ih

private theorem getElem?_of_forall₂ {α β : Type} {R : α → β → Prop} {xs : List α} {ys : List β}
    (h : List.Forall₂ R xs ys) (i : Nat) : Option.Rel R xs[i]? ys[i]? := by
  induction h generalizing i with
  | nil => exact .none
  | cons hr _ ih =>
      cases i with
      | zero => exact .some hr
      | succ i => simpa only [List.getElem?_cons_succ] using ih i

theorem exists_prepareState {p : Production} :
    (∃ row, prepareState evaluator options p = .ok row) ↔
      ∀ a ∈ p.alternatives, ∃ r, prepareRule evaluator options p.lhs a = .ok r := by
  constructor
  · rintro ⟨row, h⟩ a ha
    obtain ⟨r, -, hr⟩ := forall₂_right (prepareState_ok h).2.flip ha
    exact ⟨r, hr⟩
  · intro each
    obtain ⟨rules, prepared⟩ := exists_mapM_of_forall each
    refine ⟨(p.lhs, rules), ?_⟩
    rw [prepareState, prepared]
    rfl

end Rules

namespace Compiled

/-- A grammar compiles exactly if it passes the checks and all actions are prepared. -/
theorem exists_ofGrammar {evaluator : Action.Evaluator V P} {options : Options} {g : Grammar} :
    (∃ c, ofGrammar evaluator options g = .ok c) ↔ g.checkStructure = .ok () ∧
      (options.rejectOverlap = true → g.checkOverlap g.firstSets = .ok ()) ∧
      ∀ state a, g.HasRule state a → ∃ r, prepareRule evaluator options state a = .ok r := by
  have prepared : (∃ rules, g.productions.mapM (prepareState evaluator options) = .ok rules) ↔
      ∀ state a, g.HasRule state a → ∃ r, prepareRule evaluator options state a = .ok r := by
    constructor
    · rintro ⟨rules, h⟩ state a ⟨p, hp, rfl, ha⟩
      obtain ⟨row, -, hr⟩ := forall₂_right (forall₂_of_mapM h).flip hp
      exact exists_prepareState.mp ⟨row, hr⟩ a ha
    · intro each
      refine exists_mapM_of_forall fun p hp => ?_
      exact exists_prepareState.mpr fun a ha => each p.lhs a ⟨p, hp, rfl, ha⟩
  rw [← prepared, ofGrammar]
  cases structured : g.checkStructure with
  | error e => exact ⟨nofun, nofun⟩
  | ok _ =>
      by_cases strict : options.rejectOverlap = true
      · cases overlap : g.checkOverlap g.firstSets with
        | error e => simp [bind, Except.bind, strict, overlap]
        | ok _ =>
            cases g.productions.mapM (prepareState evaluator options) <;>
              simp [bind, Except.bind, pure, Except.pure, strict, overlap]
      · cases g.productions.mapM (prepareState evaluator options) <;>
          simp [bind, Except.bind, pure, Except.pure, strict]

theorem checkOverlap_of_ofDeclarations {patterns : String → Option Text.Matcher}
    {evaluator : Action.Evaluator V P} {options : Options} {d : Grammar.Declarations}
    {c : Compiled V P} (strict : options.rejectOverlap = true)
    (h : ofDeclarations patterns evaluator options d = .ok c) :
    c.grammar.checkOverlap c.grammar.firstSets = .ok () := by
  obtain ⟨g, -, h⟩ := exists_of_bind_ok h
  obtain ⟨rfl, -⟩ := ofGrammar_ok h
  exact (exists_ofGrammar.mp ⟨c, h⟩).2.1 strict

variable {c : Compiled V P}

private theorem rule?_rel (wf : c.WellFormed) (state : String) (index : Nat) :
    Option.Rel (fun a r => r.alternative = a ∧ c.evaluator.prepare a.action = .ok r.program ∧
        (c.options.checkActions = true → c.evaluator.check r.program a.arity = .ok ()))
      (c.grammar.alternative? state index) (c.rule? state index) := by
  have rows := lookup_of_forall₂ (forall₂_of_mapM wf.rules_eq) state
  rw [Grammar.alternative?, Grammar.production?, rule?]
  generalize c.grammar.productions.find? (·.lhs == state) = found at rows
  generalize c.rules.lookup state = listed at rows
  cases rows with
  | none => exact .none
  | some hrules =>
      rw [Option.bind_some, Option.bind_some]
      exact getElem?_of_forall₂ (hrules.imp fun _ _ hr => prepareRule_ok hr) index

theorem rule?_ok (wf : c.WellFormed) {state : String} {index : Nat} {r : Rule P}
    (h : c.rule? state index = some r) :
    c.grammar.alternative? state index = some r.alternative ∧
      c.evaluator.prepare r.alternative.action = .ok r.program := by
  have rel := rule?_rel wf state index
  rw [h] at rel
  cases ha : c.grammar.alternative? state index with
  | none => rw [ha] at rel; cases rel
  | some a =>
      rw [ha] at rel
      cases rel with
      | some hr =>
          obtain ⟨rfl, hp, -⟩ := hr
          exact ⟨rfl, hp⟩

theorem exists_rule (wf : c.WellFormed) {state : String} {index : Nat} {a : Alternative}
    (h : c.grammar.alternative? state index = some a) :
    ∃ r, c.rule? state index = some r ∧ r.alternative = a := by
  have rel := rule?_rel wf state index
  rw [h] at rel
  cases hr : c.rule? state index with
  | none => rw [hr] at rel; cases rel
  | some r =>
      rw [hr] at rel
      cases rel with
      | some h => exact ⟨r, rfl, h.1⟩

/-- The action of a rule is prepared and, if that is asked for, has passed the check. -/
theorem prepared_of_hasRule (wf : c.WellFormed) {state : String} {a : Alternative}
    (h : c.grammar.HasRule state a) :
    ∃ program, c.evaluator.prepare a.action = .ok program ∧
      (c.options.checkActions = true → c.evaluator.check program a.arity = .ok ()) := by
  obtain ⟨index, ha⟩ := h.alternative? wf.grammar
  have rel := rule?_rel wf state index
  rw [ha] at rel
  cases hr : c.rule? state index with
  | none => rw [hr] at rel; cases rel
  | some r =>
      rw [hr] at rel
      cases rel with
      | some h => exact ⟨r.program, h.2⟩

theorem followed_of_alternative? (wf : c.WellFormed) {state : String} {index : Nat}
    {a : Alternative} (h : c.grammar.alternative? state index = some a) :
    Grammar.Followed c.first c.follow state a.symbols := by
  rw [wf.first_eq, wf.follow_eq]
  exact (Grammar.followClosed_followSets wf.grammar).rule (Grammar.hasRule_of_alternative? h)

theorem holds_of_alternative? (wf : c.WellFormed) {state : String} {index : Nat}
    {a : Alternative} (h : c.grammar.alternative? state index = some a) {x : Terminal}
    (hx : x ∈ (firstOfSequence c.first a.symbols).1) : c.first.holds state x = true := by
  rw [wf.first_eq] at hx ⊢
  exact Grammar.firstClosed_firstSets wf.grammar state a (Grammar.hasRule_of_alternative? h) x hx

theorem select?_eq_table {state : String} {next : Terminal} {index : Nat} :
    c.select? state next = some (index, false) ↔
      ∃ token, next = .token token ∧ c.table.rule? state token = some index := by
  cases next with
  | token token => cases hr : c.table.rule? state token <;> simp [select?, hr]
  | epsilon | endOfInput => simp [select?]

theorem select?_eq_follow {state : String} {next : Terminal} {index : Nat} :
    c.select? state next = some (index, true) ↔
      (∀ token, next = .token token → c.table.rule? state token = none) ∧
        c.follow.holds state next = true ∧ c.table.emptyRule? state = some index := by
  cases next with
  | token token => cases hr : c.table.rule? state token <;> simp [select?, hr]
  | epsilon | endOfInput => simp [select?]

theorem of_select?_table (wf : c.WellFormed) {state : String} {next : Terminal} {index : Nat}
    (h : c.select? state next = some (index, false)) :
    ∃ token a, next = .token token ∧ c.grammar.alternative? state index = some a ∧
      .token token ∈ (firstOfSequence c.first a.symbols).1 := by
  obtain ⟨token, rfl, hr⟩ := select?_eq_table.mp h
  rw [wf.table_eq] at hr
  obtain ⟨-, ⟨a, ha, hx⟩, -⟩ := Grammar.rule?_eq_some.mp hr
  exact ⟨token, a, rfl, ha, wf.first_eq ▸ hx⟩

/-- A rule by which a state vanishes can vanish itself, and what is ahead follows the
state but does not begin it. -/
theorem of_select?_follow (wf : c.WellFormed) {state : String} {next : Terminal} {index : Nat}
    (h : c.select? state next = some (index, true)) :
    (∃ a, c.grammar.alternative? state index = some a ∧
      .epsilon ∈ (firstOfSequence c.first a.symbols).1) ∧
    c.follow.holds state next = true ∧
    ∀ token, next = .token token → ¬c.first.holds state next = true := by
  obtain ⟨absent, follows, empty⟩ := select?_eq_follow.mp h
  refine ⟨?_, follows, ?_⟩
  · rw [wf.table_eq] at empty
    rw [wf.first_eq]
    exact Grammar.emptyRule?_nullable empty
  · rintro token rfl hx
    rw [wf.first_eq] at hx
    obtain ⟨i, hi⟩ := Grammar.exists_rule? wf.grammar hx
    have hnone := absent token rfl
    rw [wf.table_eq, hi] at hnone
    cases hnone

/-- A state that can begin with the token ahead is expanded by the table. -/
theorem exists_select?_table (wf : c.WellFormed) {state token : String}
    (h : c.first.holds state (.token token) = true) :
    ∃ index, c.select? state (.token token) = some (index, false) := by
  rw [wf.first_eq] at h
  obtain ⟨index, hi⟩ := Grammar.exists_rule? wf.grammar h
  rw [← wf.table_eq] at hi
  exact ⟨index, select?_eq_table.mpr ⟨token, rfl, hi⟩⟩

/-- A state that can vanish is expanded by its empty rule where only what follows it
is ahead. -/
theorem exists_select?_follow (wf : c.WellFormed) {state : String} {next : Terminal}
    (nullable : c.first.holds state .epsilon = true) (follows : c.follow.holds state next = true)
    (apart : ∀ token, next = .token token → ¬c.first.holds state next = true) :
    ∃ index, c.select? state next = some (index, true) := by
  rw [wf.first_eq] at nullable
  obtain ⟨index, hi⟩ := Grammar.exists_emptyRule? wf.grammar nullable
  rw [← wf.table_eq] at hi
  refine ⟨index, select?_eq_follow.mpr ⟨fun token ahead => ?_, follows, hi⟩⟩
  cases hr : c.table.rule? state token with
  | none => rfl
  | some i =>
      rw [wf.table_eq] at hr
      obtain ⟨-, ⟨a, ha, hx⟩, -⟩ := Grammar.rule?_eq_some.mp hr
      rw [← wf.first_eq] at hx
      exact absurd (ahead ▸ holds_of_alternative? wf ha hx) (apart token ahead)

end Compiled
end PredictiveParsing.Parsing
