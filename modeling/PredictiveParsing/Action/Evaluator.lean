import PredictiveParsing.Action.Evaluation
import PredictiveParsing.Action.Reader

/-!
What a grammar needs from the language of its actions. A grammar hands over the
text of matched tokens, the code of each rule once, and then the prepared code
with the values of the children of a rule, and gets back one value.
-/
namespace PredictiveParsing.Action

/-- A language of actions with values `V` and prepared programs `P`. -/
structure Evaluator (V P : Type) where
  /-- The value of a matched token. -/
  leaf : String → V
  /-- Prepares the code of a rule. -/
  prepare : String → Except ActionError P
  /-- Runs a prepared program on the values of the children. -/
  evaluate : P → List V → Except ActionError V
  /-- Checks a prepared program against the number of children of its rule. -/
  check : P → Nat → Except ActionError Unit

/-- The action language: tokens are texts. -/
def expressions : Evaluator Value Program :=
  ⟨.str, Program.ofText, Program.run, Program.check⟩

/-- Writes out the derivation: each node is its code applied to its children, and
each token is in quotes. -/
def outline : Evaluator String String :=
  ⟨Text.quoted, .ok, fun code children => .ok (code ++ "(" ++ ",".intercalate children ++ ")"),
    fun _ _ => .ok ()⟩

end PredictiveParsing.Action
