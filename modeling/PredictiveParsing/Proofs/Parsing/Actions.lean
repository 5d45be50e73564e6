import PredictiveParsing.Pattern.Search
import PredictiveParsing.Proofs.Action.Failure
import PredictiveParsing.Proofs.Action.RoundTrip
import PredictiveParsing.Proofs.Parsing.Nesting
import PredictiveParsing.Proofs.Parsing.Tokens

/-!
What an action is run on. A rule gives its action one child for each of its symbols other
than epsilon, which is the number that the action was checked for. An action that fails
during a parse has therefore all its children, and fails because of their values.
-/
namespace PredictiveParsing.Parsing

open Grammar (Alternative Symbol)

variable {V P : Type}

namespace Compiled

variable {c : Compiled V P} {stream : Stream}

section Children

variable {depth : Nat} {visit : String → Run → Outcome V} {r r' : Run}

theorem visitSymbols_length {symbols : List Symbol} {vs : List V}
    (h : c.visitSymbols stream depth visit symbols r = (.ok vs, r')) :
    vs.length = (symbols.filter (· ≠ .epsilon)).length := by
  induction symbols generalizing r vs with
  | nil =>
      cases h
      rfl
  | cons y more ih =>
      cases y with
      | epsilon => simpa using ih h
      | token name | state name =>
          obtain ⟨v, r₁, -, h⟩ := Outcome.andThen_eq_ok h
          obtain ⟨ws, r₂, rest, h⟩ := Outcome.andThen_eq_ok h
          cases h
          simpa using ih rest

/-- An action that fails is that of a rule, on as many children as the rule has. -/
def FailsInRule (c : Compiled V P) (e : ParseError) : Prop :=
  ∀ state cause, e = .action state cause → ∃ a children, c.grammar.HasRule state a ∧
    children.length = a.arity ∧ act c.evaluator state a children = .error e

theorem failsInRule_of_other {e : ParseError} (other : ∀ state cause, e ≠ .action state cause) :
    c.FailsInRule e :=
  fun state cause he => absurd he (other state cause)

theorem visitSymbols_failsInRule {symbols : List Symbol} {e : ParseError}
    (inside : ∀ {name r e r'}, visit name r = (.error e, r') → c.FailsInRule e)
    (h : c.visitSymbols stream depth visit symbols r = (.error e, r')) : c.FailsInRule e := by
  obtain ⟨-, y, -, -, r₁, -, -, failed⟩ := visitSymbols_error h
  cases y with
  | epsilon => cases failed
  | token name =>
      obtain ⟨-, _, _, _, _, rfl⟩ := visitSymbols_token_error failed
      exact failsInRule_of_other nofun
  | state name => exact inside (visitSymbols_state_error.mp failed)

theorem visitState_failsInRule (wf : c.WellFormed) {levels : Nat} {state : String}
    {e : ParseError} (h : c.visitState stream levels depth state r = (.error e, r')) :
    c.FailsInRule e := by
  induction levels generalizing depth state r r' e with
  | zero =>
      cases h
      exact failsInRule_of_other nofun
  | succ levels ih =>
      rcases visitState_cases wf stream levels depth state r with
        busy | ⟨-, none⟩ | ⟨index, viaFollow, a, -, ha, expand⟩
      · rw [busy] at h
        cases h
        exact failsInRule_of_other nofun
      · rw [none] at h
        cases h
        exact failsInRule_of_other nofun
      -- a failure inside is that of another rule, one behind the children is that of this rule
      · rw [expand] at h
        rcases Outcome.andThen_eq_error h with h | ⟨children, after, read, h⟩
        · exact visitSymbols_failsInRule ih h
        · have failed := (Prod.mk.inj h).1
          intro name cause he
          obtain ⟨cause', rfl⟩ := act_error failed
          cases he
          exact ⟨a, children, Grammar.hasRule_of_alternative? ha, visitSymbols_length read, failed⟩

end Children

theorem parseStream_failsInRule (wf : c.WellFormed) {e : ParseError}
    (h : (c.parseStream stream).1 = .error e) : c.FailsInRule e := by
  rcases parseStream_error h with inside | ⟨v, r, -, -, -, behind⟩
  · exact visitState_failsInRule wf inside
  · rw [behind, unexpected] at h
    cases h
    exact failsInRule_of_other (by simp)

theorem parse_failsInRule (wf : c.WellFormed) {input : String} {e : ParseError}
    (h : c.parse input = .error e) : c.FailsInRule e := by
  rcases parse_eq_error h with ⟨_, _, rfl⟩ | ⟨stream, -, failed⟩
  · exact failsInRule_of_other nofun
  · exact parseStream_failsInRule wf failed

end Compiled

/-- An action that fails on the children of its rule after it passed the check fails by
their values. -/
theorem ofValues_of_act {state : String} {a : Alternative} {children : List Action.Value}
    {program : Action.Program} {cause : Action.ActionError}
    (prepared : Action.expressions.prepare a.action = .ok program)
    (checked : Action.expressions.check program a.arity = .ok ())
    (all : children.length = a.arity)
    (failed : act Action.expressions state a children = .error (.action state cause)) :
    cause.OfValues := by
  simp only [act, prepared] at failed
  rw [← all] at checked
  cases he : Action.expressions.evaluate program children with
  | ok v =>
      rw [he] at failed
      cases failed
  | error e =>
      rw [he] at failed
      cases failed
      exact Action.Program.run_fails checked _ he

namespace Compiled

/-- With checked actions a parse fails in no action for want of a child or because of its
code. The check itself is exact: a program that passes it finds all its children, and one
that does not pass asks for the child that is named, and for no later one. -/
theorem action_fails_by_values (patterns : String → Option Text.Matcher) (options : Options)
    (d : Grammar.Declarations) :
    (∀ c, ofDeclarations patterns Action.expressions options d = .ok c →
      options.checkActions = true → ∀ input state cause,
        c.parse input = .error (.action state cause) →
        (∀ index n, cause ≠ .missingChild index n) ∧
          ∀ offset fault, cause ≠ .malformed offset fault) ∧
    ∀ (p : Action.Program) (n : Nat),
      (p.check n = .ok () → ∀ children : List Action.Value, children.length = n →
        ∀ index len, p.run children ≠ .error (.missingChild index len)) ∧
      ∀ e, p.check n = .error e → ∃ index, e = .missingChild index n ∧ p.AsksFor index ∧
        ∀ other, p.AsksFor other → other ≤ index := by
  refine ⟨?_, fun p n => ⟨?_, ?_⟩⟩
  · intro c compiled on input state cause failed
    obtain ⟨wf, evaluator, rfl, -⟩ := ofDeclarations_ok compiled
    obtain ⟨a, children, rule, all, acted⟩ := parse_failsInRule wf failed state cause rfl
    obtain ⟨program, prepared, checked⟩ := prepared_of_hasRule wf rule
    rw [evaluator] at prepared checked acted
    have values : cause.OfValues := ofValues_of_act prepared (checked on) all acted
    constructor
    · rintro index n rfl
      exact values
    · rintro offset fault rfl
      exact values
  · rintro checked children rfl index len missing
    exact Action.Program.run_fails checked _ missing
  · intro e failed
    obtain ⟨index, named, -, asked, highest⟩ := Action.Program.check_eq_error failed
    exact ⟨index, named, asked, highest⟩

/-- A quotient by the length of what may be missing, in a rule with an epsilon in it. -/
def quotient : Grammar.Declarations where
  tokens := [⟨"a", "a"⟩, ⟨"b", "b"⟩]
  rules := [.ofWords "s" "a EPS B" "len ( $0 ) / len ( $1 )", .ofWords "B" "b" "$0",
    .ofWords "B" "EPS" ""]

private theorem expressions_quotient :
    Action.expressions = { Action.expressions with
      prepare := fun code =>
        if code = "len ( $0 ) / len ( $1 )" then
          .ok [.value (.arith .div (.call "len" [.child 0]) (.call "len" [.child 1]))]
        else if code = "$0" then .ok [.value (.child 0)]
        else if code = "" then .ok []
        else Action.expressions.prepare code } := by
  refine congrArg (fun prepare => { Action.expressions with prepare }) (funext fun code => ?_)
  split
  · next same =>
      subst same
      refine Action.Program.Written.ofText (.last ⟨["len", "(", "$0", ")", "/", "len", "(", "$1",
        ")"].map String.toList, by decide, by decide⟩) ?_
      simp [Action.Program.Printable, Action.Statement.Printable, Action.Expr.Printable,
        Action.Expr.PrintableList, Action.IsName]
      decide
  split
  · next same =>
      subst same
      refine Action.Program.Written.ofText (.last ⟨[['$', '0']], by decide, by decide⟩) ?_
      simp [Action.Program.Printable, Action.Statement.Printable, Action.Expr.Printable]
  split
  · next same =>
      subst same
      exact Action.Program.Written.ofText .empty fun _ hs => absurd hs List.not_mem_nil
  · rfl

theorem action_fails_by_values_quotient :
    (∃ c, ofDeclarations Pattern.matcher? Action.expressions .standard quotient = .ok c ∧
      c.parse "ab" = .ok (.int 1) ∧
      c.parse "a" = .error (.action "s" .divisionByZero) ∧
      ∀ index n, Action.ActionError.divisionByZero ≠ .missingChild index n) ∧
    (Action.Program.check [.value (.call "len" [.child 1]), .result (.child 0)] 2 = .ok () ∧
      ∀ index len, Action.Program.run [.value (.call "len" [.child 1]), .result (.child 0)]
        [.bool true, .int 0] ≠ .error (.missingChild index len)) ∧
    Action.Program.check [.result (.child 0), .value (.neg (.child 3))] 2 =
      .error (.missingChild 3 2) ∧
    Action.Program.AsksFor [.result (.child 0), .value (.neg (.child 3))] 3 := by
  obtain ⟨inParse, checked⟩ := action_fails_by_values Pattern.matcher? .standard quotient
  obtain ⟨c, compiled, value, failed⟩ :
      ∃ c, ofDeclarations Pattern.matcher? Action.expressions .standard quotient = .ok c ∧
        c.parse "ab" = .ok (.int 1) ∧
        c.parse "a" = .error (.action "s" .divisionByZero) := by
    rw [expressions_quotient]
    exact ⟨_, by with_unfolding_all rfl, by with_unfolding_all rfl, by with_unfolding_all rfl⟩
  refine ⟨⟨c, compiled, value, failed, (inParse c compiled rfl "a" _ _ failed).1⟩,
    ⟨rfl, (checked _ _).1 rfl _ rfl⟩, rfl, ?_⟩
  obtain ⟨index, named, asked, -⟩ :=
    (checked [.result (.child 0), .value (.neg (.child 3))] 2).2 (.missingChild 3 2) rfl
  cases named
  exact asked

end Compiled
end PredictiveParsing.Parsing
