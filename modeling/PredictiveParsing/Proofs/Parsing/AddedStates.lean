import PredictiveParsing.Proofs.Grammar.AddedStates
import PredictiveParsing.Proofs.Parsing.Limit
import PredictiveParsing.Proofs.Parsing.Lookahead
import PredictiveParsing.Proofs.Parsing.Prediction
import PredictiveParsing.Proofs.Parsing.Soundness

/-!
Rules of states that the start state does not reach. They can put more behind a state, which then
vanishes where its visit was refused without them. A parse of the whole input makes no use of
that: what comes behind a state that has vanished in it comes there in a derivation from the start
state as well, and thus followed the state before.
-/
namespace PredictiveParsing.Parsing

open Grammar (Alternative Symbol Terminal Followed)
open PredictiveParsing.Parsing.Tree (leavesOf)

variable {V P : Type}

namespace Compiled

/-- The second grammar has rules of further states. All else is compiled alike. -/
structure AddsStates (c c' : Compiled V P) : Prop where
  grammar : c.grammar.AddsStates c'.grammar
  evaluator_eq : c'.evaluator = c.evaluator
  options_eq : c'.options = c.options

variable {c c' : Compiled V P} {stream : Stream}

namespace AddsStates

section Selection

variable {state : String} {next : Terminal} {index : Nat} {viaFollow : Bool}

theorem rule?_eq (adds : c.AddsStates c') (wf : c.WellFormed) (wf' : c'.WellFormed)
    (declared : state ∈ c.grammar.states) (token : String) :
    c'.table.rule? state token = c.table.rule? state token := by
  rw [wf.table_eq, wf'.table_eq]
  exact adds.grammar.rule?_eq wf.grammar wf'.grammar declared token

theorem emptyRule?_eq (adds : c.AddsStates c') (wf : c.WellFormed) (wf' : c'.WellFormed)
    (declared : state ∈ c.grammar.states) :
    c'.table.emptyRule? state = c.table.emptyRule? state := by
  rw [wf.table_eq, wf'.table_eq]
  exact adds.grammar.emptyRule?_eq wf.grammar wf'.grammar declared

theorem holds_follow (adds : c.AddsStates c') (wf : c.WellFormed) (wf' : c'.WellFormed)
    (follows : c.follow.holds state next = true) : c'.follow.holds state next = true := by
  rw [wf.follow_eq] at follows
  rw [wf'.follow_eq]
  exact adds.grammar.holds_follow wf.grammar wf'.grammar follows

/-- What was selected is selected still. -/
theorem select?_forth (adds : c.AddsStates c') (wf : c.WellFormed) (wf' : c'.WellFormed)
    (selected : c.select? state next = some (index, viaFollow)) :
    c'.select? state next = some (index, viaFollow) := by
  obtain ⟨a, ha⟩ := exists_alternative? wf selected
  have declared := (Grammar.hasRule_of_alternative? ha).state_mem
  cases viaFollow with
  | false =>
      rw [select?_eq_table] at selected ⊢
      simpa only [adds.rule?_eq wf wf' declared] using selected
  | true =>
      obtain ⟨absent, follows, empty⟩ := select?_eq_follow.mp selected
      rw [select?_eq_follow, adds.emptyRule?_eq wf wf' declared]
      simp only [adds.rule?_eq wf wf' declared]
      exact ⟨absent, adds.holds_follow wf wf' follows, empty⟩

/-- What is selected now was selected before, if what is ahead followed the state where it is to
vanish. -/
theorem select?_back (adds : c.AddsStates c') (wf : c.WellFormed) (wf' : c'.WellFormed)
    (declared : state ∈ c.grammar.states)
    (selected : c'.select? state next = some (index, viaFollow))
    (followed : viaFollow = true → c.follow.holds state next = true) :
    c.select? state next = some (index, viaFollow) := by
  cases viaFollow with
  | false =>
      rw [select?_eq_table] at selected ⊢
      simpa only [adds.rule?_eq wf wf' declared] using selected
  | true =>
      obtain ⟨absent, -, empty⟩ := select?_eq_follow.mp selected
      rw [adds.emptyRule?_eq wf wf' declared] at empty
      simp only [adds.rule?_eq wf wf' declared] at absent
      exact select?_eq_follow.mpr ⟨absent, followed rfl, empty⟩

end Selection

section Forth

/-- A visit that does not fail is the same with the further rules. -/
theorem visitState_eqUnless (adds : c.AddsStates c') (wf : c.WellFormed) (wf' : c'.WellFormed)
    (levels depth : Nat) (state : String) (r : Run) :
    EqUnless (fun _ => True) (c.visitState stream levels depth state r)
      (c'.visitState stream levels depth state r) := by
  induction levels generalizing depth state r with
  | zero => exact .inl ⟨_, rfl, trivial⟩
  | succ levels ih =>
      rw [visitState_succ, visitState_succ]
      split
      · exact .refl _ _
      · rcases expand_cases wf stream state r with
          ⟨-, refused⟩ | ⟨index, viaFollow, a, selected, rule, expanded⟩
        · rw [refused]
          exact .inl ⟨_, rfl, trivial⟩
        · have declared := (Grammar.hasRule_of_alternative? rule).state_mem
          have rule' := (adds.grammar.alternative?_eq declared index).trans rule
          rw [expanded, expand_selected wf' (adds.select?_forth wf wf' selected) rule',
            visitSymbols_congr adds.evaluator_eq, adds.evaluator_eq]
          exact (visitSymbols_eqUnless c stream (ih (depth + 1)) (depth + 1) a.symbols _).andThen
            fun _ _ => .refl _ _

theorem parseStream_forth (adds : c.AddsStates c') (wf : c.WellFormed) (wf' : c'.WellFormed)
    {v : V} (h : (c.parseStream stream).1 = .ok v) : (c'.parseStream stream).1 = .ok v := by
  have same : EqUnless (fun _ => True) (c.parseStream stream) (c'.parseStream stream) := by
    rw [parseStream, parseStream, adds.options_eq]
    apply (adds.visitState_eqUnless wf wf' _ _ _ _).andThen
    exact fun _ _ => .refl _ _
  rw [same.eq, h]
  intro e failed
  rw [h] at failed
  cases failed

end Forth

section Back

variable {depth : Nat} {state lhs : String} {symbols : List Symbol} {r r' : Run} {v : V}
  {vs : List V}

/-- Visits of symbols go back if those of their states do, as long as what is ahead behind them
follows the state of the rule. -/
theorem visitSymbols_back {levels : Nat} {visit : String → Run → Outcome V}
    (adds : c.AddsStates c') (wf : c.WellFormed)
    (inside : ∀ {name r v r'}, name ∈ c.grammar.states → visit name r = (.ok v, r') →
      c.follow.holds name (nextTerminal stream r') = true →
      c.visitState stream levels depth name r = (.ok v, r'))
    (declared : c.grammar.Declares symbols) (followed : Followed c.first c.follow lhs symbols)
    (h : c'.visitSymbols stream depth visit symbols r = (.ok vs, r'))
    (follows : c.follow.holds lhs (nextTerminal stream r') = true) :
    c.visitSymbols stream depth (c.visitState stream levels depth) symbols r = (.ok vs, r') := by
  rw [visitSymbols_congr adds.evaluator_eq] at h
  induction symbols generalizing r vs with
  | nil => exact h
  | cons y more ih =>
      have behind : c.grammar.Declares more := fun name hm =>
        declared name (List.mem_cons_of_mem y hm)
      cases y with
      | epsilon => exact ih behind followed h
      | token name =>
          obtain ⟨v, r₁, first, h⟩ := Outcome.andThen_eq_ok h
          obtain ⟨ws, r₂, rest, h⟩ := Outcome.andThen_eq_ok h
          cases h
          simp only [visitSymbols, first, Outcome.andThen, ih behind followed rest]
      | state name =>
          obtain ⟨v, r₁, first, h⟩ := Outcome.andThen_eq_ok h
          obtain ⟨ws, r₂, rest, h⟩ := Outcome.andThen_eq_ok h
          cases h
          have rest := ih behind followed.tail rest
          -- the trees of the rest tell what is ahead behind the state
          obtain ⟨ts, forest, -, reads⟩ := visitSymbols_sound wf rest
          rw [nextTerminal_eq_peek] at follows
          have ahead := follow_of_followed wf followed forest follows
          rw [← reads.remaining, ← nextTerminal_eq_peek] at ahead
          have first := inside (declared name List.mem_cons_self) first ahead
          simp only [visitSymbols, first, Outcome.andThen, rest]

/-- A visit that gives a value with the further rules gives it without them, if what is ahead
behind it followed the state. -/
theorem visitState_back (adds : c.AddsStates c') (wf : c.WellFormed) (wf' : c'.WellFormed)
    {levels : Nat} (declared : state ∈ c.grammar.states)
    (h : c'.visitState stream levels depth state r = (.ok v, r'))
    (follows : c.follow.holds state (nextTerminal stream r') = true) :
    c.visitState stream levels depth state r = (.ok v, r') := by
  induction levels generalizing depth state r r' v with
  | zero => cases h
  | succ levels ih =>
      have vanished : ∀ index, c'.select? state (nextTerminal stream r) = some (index, true) →
          r'.cursor = r.cursor := by
        intro index viaFollow
        have vanishes : Vanishes r.cursor r (c'.visitState stream (levels + 1) depth state r) :=
          visitState_vanishes wf' rfl (mayVanish_of_select? wf' viaFollow)
        rw [h] at vanishes
        exact vanishes.cursor
      rw [visitState_succ] at h ⊢
      split at h
      · cases h
      · next free =>
          rw [if_neg free]
          rcases expand_cases wf' stream state r with
            ⟨-, refused⟩ | ⟨index, viaFollow, a, selected, rule, expanded⟩
          · rw [refused, unexpected] at h
            cases h
          · have selected' := adds.select?_back wf wf' declared selected fun via => by
              rw [← nextTerminal_congr (vanished index (via ▸ selected))]
              exact follows
            rw [adds.grammar.alternative?_eq declared] at rule
            rw [expanded] at h
            obtain ⟨vs, after, read, h⟩ := Outcome.andThen_eq_ok h
            cases (Prod.mk.inj h).2
            have inside := visitSymbols_back adds wf ih
              (wf.grammar.declares (Grammar.hasRule_of_alternative? rule))
              (followed_of_alternative? wf rule) read follows
            rw [expand_selected wf selected' rule, inside, ← adds.evaluator_eq]
            exact h

theorem parseStream_back (adds : c.AddsStates c') (wf : c.WellFormed) (wf' : c'.WellFormed)
    (required : c.options.requireEnd = true) (h : (c'.parseStream stream).1 = .ok v) :
    (c.parseStream stream).1 = .ok v := by
  have parsed : c'.parseStream stream = (.ok v, (c'.parseStream stream).2) := Prod.ext h rfl
  obtain ⟨read, atEnd⟩ := parseStream_ok parsed
  rw [adds.options_eq] at read atEnd
  generalize (c'.parseStream stream).2 = r at read atEnd
  have follows : c.follow.holds Grammar.startName (nextTerminal stream r) = true := by
    rw [nextTerminal, atEnd required]
    exact follow_start wf
  rw [parseStream, adds.visitState_back wf wf' wf.grammar.start_declared read follows]
  simp [Outcome.andThen, atEnd required]

end Back

end AddsStates

/-- With the end of input required, rules of states that were not there before, and that the start
state hence does not reach, change no parse that gives a value, nor make any other parse give
one. The grammars may have conflicts. -/
theorem parse_eq_ok_of_addsStates {patterns : String → Option Text.Matcher}
    {evaluator : Action.Evaluator V P} {options : Options} {d d' : Grammar.Declarations}
    (required : options.requireEnd = true) (adds : d.AddsStates d')
    (h : ofDeclarations patterns evaluator options d = .ok c)
    (h' : ofDeclarations patterns evaluator options d' = .ok c') (input : String) (v : V) :
    c'.parse input = .ok v ↔ c.parse input = .ok v := by
  obtain ⟨wf, evaluator_eq, rfl, resolved⟩ := ofDeclarations_ok h
  obtain ⟨wf', evaluator_eq', options_eq', resolved'⟩ := ofDeclarations_ok h'
  have grammar := Grammar.addsStates_of_ofDeclarations adds resolved resolved'
  have added : c.AddsStates c' :=
    ⟨grammar, evaluator_eq'.trans evaluator_eq.symm, options_eq'⟩
  have tokens : c'.tokenize input = c.tokenize input := by
    rw [tokenize, tokenize, tokenRules, tokenRules, grammar.tokens_eq]
  rw [parse, parse, tokens]
  cases c.tokenize input with
  | error e => rfl
  | ok stream =>
      exact ⟨added.parseStream_back wf wf' required, added.parseStream_forth wf wf'⟩

/-- An optional word in front of another one. -/
def opening : Grammar.Declarations where
  tokens := [⟨"a", "a"⟩, ⟨"b", "b"⟩, ⟨"c", "c"⟩, ⟨"d", "d"⟩]
  rules := [.ofWords "s" "a B c" "x", .ofWords "B" "b" "y", .ofWords "B" "EPS" "z"]

/-- The same with a state that is never reached and puts another token behind the optional
word. -/
def openingDetour : Grammar.Declarations where
  tokens := opening.tokens
  rules := .ofWords "U" "B d" "w" :: opening.rules

theorem parse_eq_ok_of_addsStates_opening :
    ∃ c c', ofDeclarations Pattern.matcher? Action.outline .standard opening = .ok c ∧
      ofDeclarations Pattern.matcher? Action.outline .standard openingDetour = .ok c' ∧
      c.select? "B" (.token "d") = none ∧ c'.select? "B" (.token "d") = some (1, true) ∧
      c'.parse "ac" = .ok "x(\"a\",z(),\"c\")" ∧
      (∀ v, c'.parse "adc" ≠ .ok v) := by
  have adds : opening.AddsStates openingDetour := ⟨rfl, by decide⟩
  obtain ⟨c, compiled, refused, parsed, failed⟩ :
      ∃ c, ofDeclarations Pattern.matcher? Action.outline .standard opening = .ok c ∧
        c.select? "B" (.token "d") = none ∧ c.parse "ac" = .ok "x(\"a\",z(),\"c\")" ∧
        c.parse "adc" = .error (.unexpected 1 1 (some ⟨"d", "d", 1⟩) (.names ["b", "c"])) :=
    ⟨_, rfl, by decide +kernel, by with_unfolding_all rfl, by with_unfolding_all rfl⟩
  obtain ⟨c', compiled', vanishes⟩ :
      ∃ c', ofDeclarations Pattern.matcher? Action.outline .standard openingDetour = .ok c' ∧
        c'.select? "B" (.token "d") = some (1, true) :=
    ⟨_, rfl, by decide +kernel⟩
  refine ⟨c, c', compiled, compiled', refused, vanishes, ?_, fun v parsed' => ?_⟩
  · exact (parse_eq_ok_of_addsStates rfl adds compiled compiled' "ac" _).mpr parsed
  · rw [parse_eq_ok_of_addsStates rfl adds compiled compiled', failed] at parsed'
    cases parsed'

end Compiled
end PredictiveParsing.Parsing
