import PredictiveParsing.Grammar.Declarations
import PredictiveParsing.Grammar.Error
import PredictiveParsing.Grammar.Symbol
import PredictiveParsing.Text.Matcher

/-!
From declarations to a grammar. Names are checked and every symbol of a rule is
resolved to a token or a state. The checks come in a fixed order, so that of
several faults always the same one is reported: the start state, the tokens, the
heads of the rules, and the symbols of the rules state by state.
-/
namespace PredictiveParsing

/-- A declared token with the matcher of its pattern. -/
structure TokenDefinition where
  name : String
  pattern : String
  matcher : Text.Matcher

/-- A grammar with resolved symbols. States keep the order in which they are
first mentioned. -/
structure Grammar where
  tokens : List TokenDefinition
  productions : List Grammar.Production
  hasEpsilonRules : Bool

namespace Grammar

/-- Whether a token of this name is declared. -/
def isToken (g : Grammar) (name : String) : Bool :=
  g.tokens.any (·.name == name)

/-- Whether a state of this name is declared. -/
def isState (g : Grammar) (name : String) : Bool :=
  g.productions.any (·.lhs == name)

/-- The production of a state. -/
def production? (g : Grammar) (state : String) : Option Production :=
  g.productions.find? (·.lhs == state)

/-- Whether the state has a rule of the one symbol epsilon. -/
def hasEpsilonRule (g : Grammar) (state : String) : Bool :=
  match g.production? state with
  | some p => p.epsilonAlternative?.isSome
  | none => false

/-- Fails unless the start state has a rule. -/
def checkStart (d : Declarations) : Except GrammarError Unit :=
  if d.rules.any (·.state == startName) then .ok () else .error .missingStart

/-- Defines the tokens behind those already defined. A name must be new and not
reserved, and the pattern well formed. -/
def defineTokens (patterns : String → Option Text.Matcher) (defined : List TokenDefinition) :
    List TokenDeclaration → Except GrammarError (List TokenDefinition)
  | [] => .ok defined
  | d :: more =>
    if d.name = epsilonName ∨ d.name = endName ∨ d.name = startName then
      .error (.reservedName d.name)
    else if defined.any (·.name == d.name) then .error (.duplicateToken d.name)
    else
      match patterns d.pattern with
      | none => .error (.invalidPattern d.name)
      | some matcher => defineTokens patterns (defined ++ [⟨d.name, d.pattern, matcher⟩]) more

/-- Checks the heads of the rules: the state is neither reserved nor a token, and
there is a symbol. -/
def checkHeads (isToken : String → Bool) : List RuleDeclaration → Except GrammarError Unit
  | [] => .ok ()
  | r :: more =>
    if r.state = epsilonName ∨ r.state = endName then .error (.reservedName r.state)
    else if isToken r.state then .error (.conflictingSymbol r.state)
    else if r.symbols.isEmpty then .error (.emptyRule r.state)
    else checkHeads isToken more

/-- The states of the rules, each once, in the order of first mention. -/
def statesOf (rules : List RuleDeclaration) : List String :=
  (rules.map (·.state)).eraseDups

/-- The symbol that a name stands for in a rule of a state. -/
def resolve (isToken isState : String → Bool) (state name : String) :
    Except GrammarError Symbol :=
  if name = epsilonName then .ok .epsilon
  else if isToken name then .ok (.token name)
  else if isState name then .ok (.state name)
  else .error (.unknownSymbol state name)

/-- A rule with resolved symbols. -/
def resolveRule (isToken isState : String → Bool) (r : RuleDeclaration) :
    Except GrammarError Alternative := do
  let symbols ← r.symbols.mapM (resolve isToken isState r.state)
  pure ⟨symbols, r.action⟩

/-- A state with the resolved rules that are its own. -/
def resolveState (isToken isState : String → Bool) (rules : List RuleDeclaration)
    (state : String) : Except GrammarError Production := do
  let alternatives ←
    (rules.filter (·.state == state)).mapM (resolveRule isToken isState)
  pure ⟨state, alternatives⟩

/-- Whether some rule mentions epsilon. -/
def mentionsEpsilon (productions : List Production) : Bool :=
  productions.any fun p => p.alternatives.any fun a => a.symbols.contains .epsilon

/-- The grammar of the declarations. -/
def ofDeclarations (patterns : String → Option Text.Matcher) (d : Declarations) :
    Except GrammarError Grammar := do
  checkStart d
  let tokens ← defineTokens patterns [] d.tokens
  let isToken := fun name => tokens.any (·.name == name)
  checkHeads isToken d.rules
  let states := statesOf d.rules
  let productions ← states.mapM (resolveState isToken states.contains d.rules)
  pure ⟨tokens, productions, mentionsEpsilon productions⟩

end Grammar
end PredictiveParsing
