import PredictiveParsing.Parsing.Run

/-!
Notices about the progress of compiling and parsing. They are read off the
results of each stage.
-/
namespace PredictiveParsing.Parsing

open Grammar (Declarations SetTable Shadowing)

/-- How important a notice is. -/
inductive Severity where
  | trace
  | debug
  | warning
deriving DecidableEq, Repr

/-- A notice about progress. -/
inductive Notice where
  | symbolsReady (tokens states : Nat)
  | structureChecked
  | firstPass (pass : Nat) (changed : Bool)
  | followPass (pass : Nat) (changed : Bool)
  | shadowing (s : Shadowing)
  | tableBuilt (entries : Nat)
  | compiled (tokens states entries : Nat)
  | tokenRead (t : Token)
  | expansion (state : String) (alternative : Grammar.Alternative) (position : Nat)
  | parsed (tokens : Nat)
deriving DecidableEq, Repr

namespace Notice

/-- How important the notice is. -/
def severity : Notice → Severity
  | symbolsReady .. | structureChecked | tableBuilt .. | compiled .. | parsed .. => .debug
  | firstPass .. | followPass .. | tokenRead .. | expansion .. => .trace
  | shadowing .. => .warning

/-- A number in digits. -/
private def number (n : Nat) : String := Numeral.integerText n

/-- Whether a pass changed something, in words. -/
private def changedText (changed : Bool) : String :=
  " done, changed: " ++ (if changed then "true" else "false")

/-- The notice in words. -/
def text : Notice → String
  | symbolsReady tokens states =>
    "symbol table ready: " ++ number tokens ++ " tokens, " ++ number states ++ " states"
  | structureChecked => "grammar passed structural validation"
  | firstPass pass changed => "FIRST pass " ++ number pass ++ changedText changed
  | followPass pass changed => "FOLLOW pass " ++ number pass ++ changedText changed
  | shadowing s =>
    "state " ++ s.state ++ ": rules [" ++ ", ".intercalate (s.shadowed.map number) ++
      "] also start with " ++ s.token ++ ", rule " ++ number s.chosen ++ " wins"
  | tableBuilt entries => "predictive table built with " ++ number entries ++ " entries"
  | compiled tokens states entries =>
    "compiled grammar: " ++ number tokens ++ " tokens, " ++ number states ++ " states, " ++
      number entries ++ " table entries"
  | tokenRead t =>
    "token " ++ t.name ++ " " ++ Text.quoted t.text ++ " at " ++ number t.offset
  | expansion state a position =>
    "expand " ++ state ++ " -> " ++ a.text ++ " at " ++ number position
  | parsed tokens => "parsed " ++ number tokens ++ " tokens"

end Notice

/-- The notices of a number of passes; all but the last one change something. -/
def passNotices (notice : Nat → Bool → Notice) (passes : Nat) : List Notice :=
  (List.range passes).map fun i => notice (i + 1) (i + 1 < passes)

/-- The notice that the symbols of a grammar are resolved. -/
def resolutionNotice (g : Grammar) : Notice :=
  .symbolsReady g.tokens.length g.productions.length

/-- The notice that the checks of the rules are passed, if they are. -/
def structureNotices (g : Grammar) : List Notice :=
  match g.checkStructure with
  | .ok () => [.structureChecked]
  | .error _ => []

/-- The notices of computing the FIRST sets. -/
def firstNotices (g : Grammar) : List Notice :=
  passNotices .firstPass g.firstSaturation.2

/-- The notices of computing the FOLLOW sets for given FIRST sets. -/
def followNotices (g : Grammar) (first : SetTable) : List Notice :=
  passNotices .followPass (g.followSaturation first).2

/-- The notices of building the table for given FIRST sets. -/
def tableNotices (g : Grammar) (first : SetTable) : List Notice :=
  (g.shadowings first).map .shadowing ++ [.tableBuilt (g.predictiveTable first).size]

/-- The notices of compiling a grammar, up to the stage that fails. -/
def grammarNotices {V P : Type} (evaluator : Action.Evaluator V P) (options : Options)
    (g : Grammar) : List Notice :=
  match g.checkStructure with
  | .error _ => [resolutionNotice g]
  | .ok () =>
    let first := g.firstSets
    let sets := [resolutionNotice g, .structureChecked] ++ firstNotices g ++ followNotices g first
    match (if options.rejectOverlap then g.checkOverlap first else .ok ()) with
    | .error _ => sets
    | .ok () =>
      let table := sets ++ tableNotices g first
      match g.productions.mapM (prepareState evaluator options) with
      | .error _ => table
      | .ok _ =>
        table ++ [.compiled g.tokens.length g.productions.length (g.predictiveTable first).size]

/-- The notices of compiling declarations; there are none if they make no
grammar. -/
def compileNotices {V P : Type} (patterns : String → Option Text.Matcher)
    (evaluator : Action.Evaluator V P) (options : Options) (d : Declarations) : List Notice :=
  match Grammar.ofDeclarations patterns d with
  | .error _ => []
  | .ok g => grammarNotices evaluator options g

namespace Compiled

variable {V P : Type}

/-- The notices of tokenizing an input, up to where it fails. -/
def tokenNotices (c : Compiled V P) (input : String) : List Notice :=
  (scanAll c.tokenRules input.toList).tokens.map .tokenRead

/-- The notice of a step, if it is an expansion. -/
def stepNotice? (s : Step) : Option Notice :=
  match s.action with
  | .expand a _ => some (.expansion s.symbol a s.position)
  | _ => none

/-- The notices of parsing an input, up to where it fails. -/
def parseNotices (c : Compiled V P) (input : String) : List Notice :=
  c.tokenNotices input ++
    match c.tokenize input with
    | .error _ => []
    | .ok stream =>
      let (result, r) := c.parseStream stream
      r.steps.toList.filterMap stepNotice? ++
        match result with
        | .ok _ => [.parsed r.cursor]
        | .error _ => []

end Compiled
end PredictiveParsing.Parsing
