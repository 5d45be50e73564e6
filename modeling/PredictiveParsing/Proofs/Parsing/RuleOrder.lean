import PredictiveParsing.Pattern.Search
import PredictiveParsing.Proofs.Grammar.SameRules
import PredictiveParsing.Proofs.Parsing.Visit

/-!
The order of the rules. Without overlap, and with one rule at most by which a state
vanishes, the derivations alone say which rule is chosen. Grammars with the same rules then
choose the same ones, expect the same names, and parse alike.
-/
namespace PredictiveParsing

namespace Grammar

/-- A rule of a state applies to the terminal ahead if it can begin with it or, which the flag
tells, if it vanishes and the terminal follows the state but cannot begin it. -/
inductive Applies (g : Grammar) (state : String) : Terminal → Alternative → Bool → Prop where
  | begins {a : Alternative} {token : String} (rule : g.HasRule state a)
      (begins : g.Begins a.symbols (.token token)) : Applies g state (.token token) a false
  | vanishes {a : Alternative} {next : Terminal} (rule : g.HasRule state a)
      (vanishes : g.Derives a.symbols []) (succeeds : g.Succeeds state next)
      (apart : ∀ token, next = .token token → ¬g.Begins [.state state] next) :
      Applies g state next a true

/-- No state has two rules by which it can vanish. -/
def VanishesOnce (g : Grammar) : Prop :=
  ∀ state a b, g.HasRule state a → g.HasRule state b →
    g.Derives a.symbols [] → g.Derives b.symbols [] → a = b

variable {g g' : Grammar} {state : String}

theorem vanishesOnce_iff (wf : g.WellFormed) : g.VanishesOnce ↔
    ∀ p ∈ g.productions, ∀ a ∈ p.alternatives, ∀ b ∈ p.alternatives,
      .epsilon ∈ (firstOfSequence g.firstSets a.symbols).1 →
      .epsilon ∈ (firstOfSequence g.firstSets b.symbols).1 → a = b := by
  simp only [mem_first_iff wf]
  constructor
  · intro once p hp a ha b hb
    exact once p.lhs a b ⟨p, hp, rfl, ha⟩ ⟨p, hp, rfl, hb⟩
  · intro once state a b rule rule'
    obtain ⟨p, hp, ha⟩ := (hasRule_iff wf).mp rule
    obtain ⟨q, hq, hb⟩ := (hasRule_iff wf).mp rule'
    obtain rfl : q = p := Option.some.inj (hq.symm.trans hp)
    exact once q ((production?_eq_some wf).mp hq).1 a ha b hb

theorem Applies.unique (wf : g.WellFormed) (checked : g.checkOverlap g.firstSets = .ok ())
    (once : g.VanishesOnce) {next : Terminal} {a b : Alternative} {v w : Bool}
    (h : g.Applies state next a v) (h' : g.Applies state next b w) : a = b ∧ v = w := by
  cases h with
  | begins rule begins =>
      cases h' with
      | begins rule' begins' =>
          have hx := (mem_first_iff wf).mpr begins
          have hy := (mem_first_iff wf).mpr begins'
          exact ⟨eq_of_checkOverlap wf checked rule rule' hx hy, rfl⟩
      | vanishes _ _ _ apart => exact absurd (begins.of_derives rule.derives) (apart _ rfl)
  | vanishes rule vanishes _ apart =>
      cases h' with
      | begins rule' begins' => exact absurd (begins'.of_derives rule'.derives) (apart _ rfl)
      | vanishes rule' vanishes' _ _ =>
          exact ⟨once state a b rule rule' vanishes vanishes', rfl⟩

namespace SameRules

theorem applies (h : g.SameRules g') {next : Terminal} {a : Alternative} {viaFollow : Bool}
    (applies : g.Applies state next a viaFollow) : g'.Applies state next a viaFollow := by
  have forth := h.included
  have back := h.symm.included
  cases applies with
  | begins rule begins => exact .begins (forth.hasRule rule) (forth.begins begins)
  | vanishes rule vanishes succeeds apart =>
      refine .vanishes (forth.hasRule rule) (forth.derives vanishes) (forth.succeeds succeeds) ?_
      intro token ahead begins
      exact apart token ahead (back.begins begins)

theorem vanishesOnce (h : g.SameRules g') (once : g.VanishesOnce) : g'.VanishesOnce := by
  intro state a b rule rule' vanishes vanishes'
  have back := h.symm.included
  exact once state a b (back.hasRule rule) (back.hasRule rule') (back.derives vanishes)
    (back.derives vanishes')

end SameRules

end Grammar

namespace Parsing

open Grammar (Alternative Symbol Terminal)

variable {V P : Type}

namespace Compiled

section Choice

/-- The alternative by which a state is expanded, and whether it was taken because of what
follows the state. -/
def choice? (c : Compiled V P) (state : String) (next : Terminal) : Option (Alternative × Bool) :=
  (c.select? state next).bind fun (index, viaFollow) =>
    (c.grammar.alternative? state index).map fun a => (a, viaFollow)

variable {c : Compiled V P} {state : String} {next : Terminal} {a : Alternative} {viaFollow : Bool}

theorem choice?_of_select? {index : Nat} (selected : c.select? state next = some (index, viaFollow))
    (ha : c.grammar.alternative? state index = some a) :
    c.choice? state next = some (a, viaFollow) := by
  simp only [choice?, selected, Option.bind_some, ha, Option.map_some]

theorem applies_of_choice? (wf : c.WellFormed) (h : c.choice? state next = some (a, viaFollow)) :
    c.grammar.Applies state next a viaFollow := by
  obtain ⟨⟨index, via⟩, selected, h⟩ := Option.bind_eq_some_iff.mp h
  obtain ⟨b, hb, same⟩ := Option.map_eq_some_iff.mp h
  cases same
  have rule := Grammar.hasRule_of_alternative? hb
  cases viaFollow with
  | false =>
      obtain ⟨token, b', rfl, hb', hx⟩ := of_select?_table wf selected
      obtain rfl := Option.some.inj (hb'.symm.trans hb)
      rw [wf.first_eq] at hx
      exact .begins rule ((Grammar.mem_first_iff wf.grammar).mp hx)
  | true =>
      obtain ⟨⟨b', hb', nullable⟩, follows, apart⟩ := of_select?_follow wf selected
      obtain rfl := Option.some.inj (hb'.symm.trans hb)
      rw [wf.first_eq] at nullable apart
      rw [wf.follow_eq] at follows
      refine .vanishes rule ((Grammar.mem_first_iff wf.grammar).mp nullable)
        ((Grammar.holds_follow_iff wf.grammar).mp follows) ?_
      intro token ahead begins
      exact apart token ahead ((Grammar.holds_first_iff wf.grammar).mpr begins)

theorem exists_choice? (wf : c.WellFormed) (h : c.grammar.Applies state next a viaFollow) :
    ∃ choice, c.choice? state next = some choice := by
  obtain ⟨index, via, selected⟩ : ∃ index via, c.select? state next = some (index, via) := by
    cases h with
    | begins rule begins =>
        have begins := (Grammar.holds_first_iff wf.grammar).mpr (begins.of_derives rule.derives)
        rw [← wf.first_eq] at begins
        obtain ⟨index, selected⟩ := exists_select?_table wf begins
        exact ⟨index, false, selected⟩
    | vanishes rule vanishes succeeds apart =>
        have nullable := (Grammar.holds_first_iff (x := .epsilon) wf.grammar).mpr
          (rule.derives.trans vanishes)
        have follows := (Grammar.holds_follow_iff wf.grammar).mpr succeeds
        rw [← wf.first_eq] at nullable
        rw [← wf.follow_eq] at follows
        obtain ⟨index, selected⟩ := exists_select?_follow wf nullable follows (by
          intro token ahead begins
          rw [wf.first_eq] at begins
          exact apart token ahead ((Grammar.holds_first_iff wf.grammar).mp begins))
        exact ⟨index, true, selected⟩
  obtain ⟨b, hb⟩ := exists_alternative? wf selected
  exact ⟨(b, via), choice?_of_select? selected hb⟩

/-- The choice is the one rule that applies. -/
theorem choice?_eq_some_iff (wf : c.WellFormed)
    (checked : c.grammar.checkOverlap c.grammar.firstSets = .ok ())
    (once : c.grammar.VanishesOnce) :
    c.choice? state next = some (a, viaFollow) ↔ c.grammar.Applies state next a viaFollow := by
  constructor
  · exact applies_of_choice? wf
  · intro applies
    obtain ⟨⟨b, via⟩, chosen⟩ := exists_choice? wf applies
    obtain ⟨rfl, rfl⟩ := applies.unique wf.grammar checked once (applies_of_choice? wf chosen)
    exact chosen

/-- An expansion depends on the table by the choice alone. -/
theorem expand_eq_choice? (wf : c.WellFormed) (stream : Stream) (depth : Nat)
    (visit : String → Run → Outcome V) (state : String) (r : Run) :
    c.expand stream depth visit state r =
      match c.choice? state (nextTerminal stream r) with
      | none => unexpected stream depth state (.names (c.expectedNames state))
          { r with active := (state, r.cursor) :: r.active }
      | some (a, viaFollow) =>
          (c.visitSymbols stream (depth + 1) visit a.symbols
            (r.enter stream depth state a viaFollow)).andThen fun children after =>
              (act c.evaluator state a children, after.leave state r.cursor) := by
  rcases expand_cases wf stream state r with
    ⟨none, refused⟩ | ⟨index, viaFollow, a, selected, ha, expanded⟩
  · rw [refused, choice?, none]
    rfl
  · rw [expanded, choice?_of_select? selected ha]

end Choice

/-- Compiled grammars that choose the same rules and expect the same names. -/
structure Alike (c c' : Compiled V P) : Prop where
  evaluator_eq : c'.evaluator = c.evaluator
  options_eq : c'.options = c.options
  tokens_eq : c'.grammar.tokens = c.grammar.tokens
  choice?_eq : ∀ state next, c'.choice? state next = c.choice? state next
  expectedNames_eq : ∀ state, c'.expectedNames state = c.expectedNames state

namespace Alike

variable {c c' : Compiled V P} {stream : Stream}

theorem expand_eq (h : c.Alike c') (wf : c.WellFormed) (wf' : c'.WellFormed) (depth : Nat)
    (visit : String → Run → Outcome V) (state : String) (r : Run) :
    c'.expand stream depth visit state r = c.expand stream depth visit state r := by
  rw [expand_eq_choice? wf, expand_eq_choice? wf', h.choice?_eq, h.expectedNames_eq,
    h.evaluator_eq]
  simp only [visitSymbols_congr h.evaluator_eq]

theorem visitState_eq (h : c.Alike c') (wf : c.WellFormed) (wf' : c'.WellFormed)
    (levels depth : Nat) (state : String) (r : Run) :
    c'.visitState stream levels depth state r = c.visitState stream levels depth state r := by
  induction levels generalizing depth state r with
  | zero => rw [visitState, visitState, h.options_eq]
  | succ levels ih =>
      have inside : c'.visitState stream levels (depth + 1) =
          c.visitState stream levels (depth + 1) :=
        funext fun name => funext fun r => ih (depth + 1) name r
      rw [visitState_succ, visitState_succ, inside, h.expand_eq wf wf']

theorem parse_eq (h : c.Alike c') (wf : c.WellFormed) (wf' : c'.WellFormed) (input : String) :
    c'.parse input = c.parse input := by
  have tokens : c'.tokenize input = c.tokenize input := by
    rw [tokenize, tokenize, tokenRules, tokenRules, h.tokens_eq]
  have streams : ∀ stream, c'.parseStream stream = c.parseStream stream := by
    intro stream
    rw [parseStream, parseStream, h.options_eq, h.visitState_eq wf wf']
  rw [parse, parse, tokens]
  simp only [streams]

end Alike

/-- The expected names depend on whether the state vanishes, not on the rule by which it
does, and on what follows it in order. -/
theorem expectedNames_congr {c c' : Compiled V P} {state : String}
    (tokens : c'.table.expected state = c.table.expected state)
    (vanishes : (c'.table.emptyRule? state).isSome = (c.table.emptyRule? state).isSome)
    (follows : (c'.follow.get? state).map Grammar.TerminalSet.sorted =
      (c.follow.get? state).map Grammar.TerminalSet.sorted) :
    c'.expectedNames state = c.expectedNames state := by
  rw [expectedNames, expectedNames, tokens]
  revert vanishes follows
  cases c.table.emptyRule? state with
  | none =>
      cases c'.table.emptyRule? state with
      | none => exact fun _ _ => rfl
      | some _ => exact nofun
  | some _ =>
      cases c'.table.emptyRule? state with
      | none => exact nofun
      | some _ =>
          cases c.follow.get? state <;> cases c'.follow.get? state <;> simp +contextual

section Permutations

variable {patterns : String → Option Text.Matcher} {evaluator : Action.Evaluator V P}
  {options : Options} {d d' : Grammar.Declarations} {c c' : Compiled V P}

theorem exists_ofDeclarations_perm (tokens : d'.tokens = d.tokens) (perm : d.rules.Perm d'.rules)
    (h : ofDeclarations patterns evaluator options d = .ok c) :
    ∃ c', ofDeclarations patterns evaluator options d' = .ok c' := by
  obtain ⟨g, resolved, h⟩ := exists_of_bind_ok h
  obtain ⟨g', resolved'⟩ := Grammar.exists_ofDeclarations_perm tokens perm resolved
  have same := Grammar.sameRules_of_perm tokens perm resolved resolved'
  have wf := Grammar.wellFormed_of_ofDeclarations resolved
  have wf' := Grammar.wellFormed_of_ofDeclarations resolved'
  obtain ⟨structured, apart, prepared⟩ := exists_ofGrammar.mp ⟨c, h⟩
  rw [ofDeclarations, resolved']
  apply exists_ofGrammar.mpr
  refine ⟨same.checkStructure wf wf' structured, ?_, ?_⟩
  · intro strict
    exact same.checkOverlap wf wf' (apart strict)
  · intro state a rule
    exact prepared state a (same.symm.hasRule rule)

theorem alike_of_perm (strict : options.rejectOverlap = true) (tokens : d'.tokens = d.tokens)
    (perm : d.rules.Perm d'.rules) (h : ofDeclarations patterns evaluator options d = .ok c)
    (h' : ofDeclarations patterns evaluator options d' = .ok c')
    (once : c.grammar.VanishesOnce) : c.Alike c' := by
  obtain ⟨wf, evaluator_eq, options_eq, resolved⟩ := ofDeclarations_ok h
  obtain ⟨wf', evaluator_eq', options_eq', resolved'⟩ := ofDeclarations_ok h'
  have same := Grammar.sameRules_of_perm tokens perm resolved resolved'
  have checked := checkOverlap_of_ofDeclarations strict h
  have checked' := checkOverlap_of_ofDeclarations strict h'
  refine ⟨evaluator_eq'.trans evaluator_eq.symm, options_eq'.trans options_eq.symm,
    same.tokens_eq, ?_, ?_⟩
  · intro state next
    -- indices differ between the grammars, so that the choices are compared by what applies
    apply Option.ext
    rintro ⟨a, viaFollow⟩
    rw [choice?_eq_some_iff wf checked once,
      choice?_eq_some_iff wf' checked' (same.vanishesOnce once)]
    exact ⟨same.symm.applies, same.applies⟩
  · intro state
    apply expectedNames_congr
    · rw [wf.table_eq, wf'.table_eq]
      exact same.expected_eq wf.grammar wf'.grammar state
    · rw [wf.table_eq, wf'.table_eq, Grammar.emptyRule?_isSome wf.grammar,
        Grammar.emptyRule?_isSome wf'.grammar]
      exact same.holds_first_eq wf.grammar wf'.grammar state .epsilon
    · rw [wf.follow_eq, wf'.follow_eq]
      exact same.sorted_follow wf.grammar wf'.grammar state

/-- Where overlaps are refused, declarations with the same rules in another order both
compile or both fail to. If no state has two rules by which it vanishes, they give every
input the same value or the same error. -/
theorem parse_of_perm (patterns : String → Option Text.Matcher)
    (evaluator : Action.Evaluator V P) {options : Options} {d d' : Grammar.Declarations}
    (strict : options.rejectOverlap = true) (tokens : d'.tokens = d.tokens)
    (perm : d.rules.Perm d'.rules) :
    ((∃ c, ofDeclarations patterns evaluator options d = .ok c) ↔
      ∃ c', ofDeclarations patterns evaluator options d' = .ok c') ∧
    ∀ c c', ofDeclarations patterns evaluator options d = .ok c →
      ofDeclarations patterns evaluator options d' = .ok c' → c.grammar.VanishesOnce →
      ∀ input, c'.parse input = c.parse input := by
  refine ⟨⟨?_, ?_⟩, ?_⟩
  · rintro ⟨c, h⟩
    exact exists_ofDeclarations_perm tokens perm h
  · rintro ⟨c', h'⟩
    exact exists_ofDeclarations_perm tokens.symm perm.symm h'
  · intro c c' h h' once input
    have alike := alike_of_perm strict tokens perm h h' once
    exact alike.parse_eq (ofDeclarations_ok h).1 (ofDeclarations_ok h').1 input

/-- A repetition in front of a word. -/
def leading : Grammar.Declarations where
  tokens := [⟨"a", "a"⟩, ⟨"b", "b"⟩]
  rules := [.ofWords "s" "A b" "x", .ofWords "A" "a A" "y", .ofWords "A" "EPS" "z"]

def leadingReversed : Grammar.Declarations where
  tokens := leading.tokens
  rules := leading.rules.reverse

theorem parse_of_perm_leading :
    ∃ c c', ofDeclarations Pattern.matcher? Action.outline
        { Options.standard with rejectOverlap := true } leading = .ok c ∧
      ofDeclarations Pattern.matcher? Action.outline
        { Options.standard with rejectOverlap := true } leadingReversed = .ok c' ∧
      c.grammar.VanishesOnce ∧ c'.parse "ab" = .ok "x(y(\"a\",z()),\"b\")" ∧
      c'.parse "a" = .error (.unexpected 1 1 none (.names ["a", "b"])) := by
  have strict : { Options.standard with rejectOverlap := true }.rejectOverlap = true := rfl
  have tokens : leadingReversed.tokens = leading.tokens := rfl
  have perm : leading.rules.Perm leadingReversed.rules := (List.reverse_perm _).symm
  obtain ⟨compiles, same⟩ := parse_of_perm Pattern.matcher? Action.outline strict tokens perm
  obtain ⟨c, compiled, parsed, failed⟩ :
      ∃ c, ofDeclarations Pattern.matcher? Action.outline
          { Options.standard with rejectOverlap := true } leading = .ok c ∧
        c.parse "ab" = .ok "x(y(\"a\",z()),\"b\")" ∧
        c.parse "a" = .error (.unexpected 1 1 none (.names ["a", "b"])) :=
    ⟨_, rfl, by with_unfolding_all rfl, by with_unfolding_all rfl⟩
  have once : c.grammar.VanishesOnce := by
    rw [Grammar.vanishesOnce_iff (ofDeclarations_ok compiled).1.grammar]
    cases compiled
    decide +kernel
  obtain ⟨c', compiled'⟩ := compiles.mp ⟨c, compiled⟩
  refine ⟨c, c', compiled, compiled', once, ?_, ?_⟩
  · rw [same c c' compiled compiled' once, parsed]
  · rw [same c c' compiled compiled' once, failed]

end Permutations

end Compiled
end Parsing
end PredictiveParsing
