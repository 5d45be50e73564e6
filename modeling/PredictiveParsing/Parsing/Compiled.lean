import PredictiveParsing.Action.Evaluator
import PredictiveParsing.Grammar.Follow
import PredictiveParsing.Grammar.LeftRecursion
import PredictiveParsing.Grammar.PredictiveTable
import PredictiveParsing.Parsing.Options
import PredictiveParsing.Parsing.Tokenizer

/-!
Compiled grammars: a checked grammar with its FIRST and FOLLOW sets, its
predictive table and its prepared actions.
-/
namespace PredictiveParsing.Parsing

open PredictiveParsing.Action (Evaluator)
open Grammar

/-- An alternative with the program prepared from its action. -/
structure Rule (P : Type) where
  alternative : Alternative
  program : P

/-- A grammar that is ready to parse inputs. -/
structure Compiled (V P : Type) where
  grammar : Grammar
  first : SetTable
  follow : SetTable
  table : PredictiveTable
  /-- The rules of each state in the order of its alternatives. -/
  rules : List (String × List (Rule P))
  evaluator : Evaluator V P
  options : Options

/-- Prepares the action of an alternative of a state, and checks it if that is
asked for. -/
def prepareRule {V P : Type} (evaluator : Evaluator V P) (options : Options) (state : String)
    (a : Alternative) : Except GrammarError (Rule P) :=
  match evaluator.prepare a.action with
  | .error e => .error (.invalidAction state e)
  | .ok program =>
    if options.checkActions then
      match evaluator.check program a.arity with
      | .error e => .error (.invalidAction state e)
      | .ok () => .ok ⟨a, program⟩
    else .ok ⟨a, program⟩

/-- Prepares the actions of a state. -/
def prepareState {V P : Type} (evaluator : Evaluator V P) (options : Options) (p : Production) :
    Except GrammarError (String × List (Rule P)) := do
  let rules ← p.alternatives.mapM (prepareRule evaluator options p.lhs)
  pure (p.lhs, rules)

namespace Compiled

variable {V P : Type}

/-- Checks a grammar and computes its sets, its table and its programs. -/
def ofGrammar (evaluator : Evaluator V P) (options : Options) (g : Grammar) :
    Except GrammarError (Compiled V P) := do
  g.checkStructure
  let first := g.firstSets
  let follow := g.followSets first
  if options.rejectOverlap then g.checkOverlap first
  let rules ← g.productions.mapM (prepareState evaluator options)
  pure ⟨g, first, follow, g.predictiveTable first, rules, evaluator, options⟩

/-- Compiles declarations. -/
def ofDeclarations (patterns : String → Option Text.Matcher) (evaluator : Evaluator V P)
    (options : Options) (d : Declarations) : Except GrammarError (Compiled V P) := do
  let g ← Grammar.ofDeclarations patterns d
  ofGrammar evaluator options g

/-- The FIRST set of a token or a state. -/
def first? (c : Compiled V P) (symbol : String) : Option TerminalSet :=
  if c.grammar.isToken symbol then some [.token symbol] else c.first.get? symbol

/-- The FOLLOW set of a state. -/
def follow? (c : Compiled V P) (state : String) : Option TerminalSet :=
  c.follow.get? state

/-- The rule of a state at an index. -/
def rule? (c : Compiled V P) (state : String) (index : Nat) : Option (Rule P) :=
  (c.rules.lookup state).bind fun rules => rules[index]?

/-- The tokens of the grammar with their matchers. -/
def tokenRules (c : Compiled V P) : List TokenRule :=
  c.grammar.tokens.map fun t => ⟨t.name, t.matcher⟩

/-- The tokens of an input. -/
def tokenize (c : Compiled V P) (input : String) : Except ParseError Stream :=
  Parsing.tokenize c.tokenRules input

/-- The names of the terminals that the state accepts next: the tokens with a rule
and, if it can derive nothing, what follows it, each once. -/
def expectedNames (c : Compiled V P) (state : String) : List String :=
  let tokens := c.table.expected state
  match c.table.emptyRule? state, c.follow.get? state with
  | some _, some s =>
    (s.sorted.map Terminal.name).foldl
      (fun names name => if name ∈ names then names else names ++ [name]) tokens
  | _, _ => tokens

end Compiled
end PredictiveParsing.Parsing
