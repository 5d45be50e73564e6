import PredictiveParsing.Action.Evaluation
import PredictiveParsing.Proofs.Action.Occurrence

/-!
What a program can fail with. Operations on values fail because of the values; a child is
missing only if the program asks for one that the rule does not have, and what is run is
never malformed. The check before the run is therefore enough for every run after it.
-/
namespace PredictiveParsing.Action

/-- Whether the failure is one of the values: neither the code nor the number of children
is at fault. -/
def ActionError.OfValues : ActionError → Prop
  | .malformed .. | .missingChild .. => False
  | .unknownVariable _ | .unknownFunction _ | .type _ | .divisionByZero | .overflow
  | .invalidNumber _ | .noValue => True

/-- All that can go wrong is with values. -/
def FailsByValues {α : Type} (x : Except ActionError α) : Prop :=
  ∀ e, x = .error e → e.OfValues

namespace FailsByValues

variable {α β : Type}

theorem ok (a : α) : FailsByValues (.ok a) := by
  intro e h
  cases h

theorem error {e : ActionError} (h : e.OfValues) : FailsByValues (.error e : Except ActionError α) := by
  intro e' h'
  cases h'
  exact h

theorem bind {x : Except ActionError α} {f : α → Except ActionError β} (h : FailsByValues x)
    (next : ∀ a, FailsByValues (f a)) : FailsByValues (x >>= f) := by
  cases x with
  | error e => exact error (h e rfl)
  | ok a => exact next a

end FailsByValues

section Operations

theorem exactly_fails (n : Int) : FailsByValues (exactly n) := by
  rw [exactly]
  split
  · exact .ok _
  · exact .error trivial

theorem onIntegers_fails (op : Arithmetic) (a b : Int) : FailsByValues (op.onIntegers a b) := by
  cases op with
  | add | sub | mul => exact exactly_fails _
  | div =>
      rw [Arithmetic.onIntegers]
      split
      · exact .error trivial
      · exact exactly_fails _
  | rem =>
      rw [Arithmetic.onIntegers]
      split
      · exact .error trivial
      · split
        · exact exactly_fails _
        · exact .error trivial

theorem onFloats_fails (op : Arithmetic) (x y : Float) : FailsByValues (op.onFloats x y) := by
  cases op with
  | add | sub | mul => exact .ok _
  | div | rem =>
      rw [Arithmetic.onFloats]
      split
      · exact .error trivial
      · exact .ok _

theorem arithmetic_fails (op : Arithmetic) (a b : Value) : FailsByValues (op.apply a b) := by
  rw [Arithmetic.apply.eq_def]
  split
  · exact .ok _
  · exact onIntegers_fails op _ _
  · split
    · exact onFloats_fails op _ _
    · exact .error trivial

theorem comparison_fails (op : Comparison) (a b : Value) : FailsByValues (op.apply a b) := by
  rw [Comparison.apply.eq_def]
  split
  · exact .ok _
  · exact .ok _
  · exact .ok _
  · exact .error trivial

theorem toInt_fails (v : Value) : FailsByValues (toInt v) := by
  cases v with
  | int n => exact .ok _
  | bool b => exact .ok _
  | float x =>
      rw [toInt, truncate]
      split
      · exact .error trivial
      · exact exactly_fails _
  | str s =>
      rw [toInt]
      split
      · exact .ok _
      · exact .error trivial

theorem toFloat_fails (v : Value) : FailsByValues (toFloat v) := by
  cases v with
  | int n => exact .ok _
  | bool b => exact .ok _
  | float x => exact .ok _
  | str s =>
      rw [toFloat]
      split
      · exact .ok _
      · exact .error trivial

theorem length_fails (v : Value) : FailsByValues (length v) := by
  cases v with
  | str s => exact .ok _
  | int _ | float _ | bool _ => exact .error trivial

theorem function_fails {name : String} {f : Value → Except ActionError Value}
    (h : function? name = some f) (v : Value) : FailsByValues (f v) := by
  rw [function?.eq_def] at h
  split at h <;> cases h
  · exact toInt_fails v
  · exact toFloat_fails v
  · exact .ok _
  · exact length_fails v

theorem invoke_fails (name : String) (vs : List Value) : FailsByValues (invoke name vs) := by
  rw [invoke.eq_def]
  split
  · exact .error trivial
  · next f v found => exact function_fails found v
  · exact .error trivial

theorem truth_fails (operation : String) (v : Value) : FailsByValues (truth operation v) := by
  cases v with
  | bool b => exact .ok _
  | int _ | float _ | str _ => exact .error trivial

theorem negate_fails (v : Value) : FailsByValues (negate v) := by
  cases v with
  | int n => exact exactly_fails _
  | float x => exact .ok _
  | str _ | bool _ => exact .error trivial

end Operations

section Evaluation

variable {children : List Value} {locals : Locals}

theorem evalList_fails {es : List Expr}
    (each : ∀ e ∈ es, FailsByValues (e.eval children locals)) :
    FailsByValues (Expr.evalList children locals es) := by
  induction es with
  | nil =>
      rw [Expr.evalList]
      exact .ok _
  | cons e es ih =>
      rw [Expr.evalList]
      refine (each e List.mem_cons_self).bind fun v => ?_
      exact (ih fun e he => each e (List.mem_cons_of_mem _ he)).bind fun vs => .ok _

/-- An expression that asks for no child beyond those there are fails by values only. -/
theorem eval_fails {e : Expr} (enough : ∀ index ∈ e.childIndices, index < children.length) :
    FailsByValues (e.eval children locals) := by
  induction e with
  | literal v =>
      rw [Expr.eval]
      exact .ok _
  | child index =>
      have there : index < children.length := enough index (List.mem_singleton_self index)
      rw [Expr.eval, List.getElem?_eq_getElem there]
      exact .ok _
  | var name =>
      rw [Expr.eval]
      split
      · exact .ok _
      · exact .error trivial
  | neg e ih =>
      rw [Expr.eval]
      exact (ih enough).bind negate_fails
  | not e ih =>
      rw [Expr.eval]
      exact (ih enough).bind fun v => (truth_fails "!" v).bind fun b => .ok _
  | arith op a b iha ihb =>
      rw [Expr.childIndices, List.forall_mem_append] at enough
      rw [Expr.eval]
      exact (iha enough.1).bind fun x => (ihb enough.2).bind fun y => arithmetic_fails op x y
  | compare op a b iha ihb =>
      rw [Expr.childIndices, List.forall_mem_append] at enough
      rw [Expr.eval]
      exact (iha enough.1).bind fun x => (ihb enough.2).bind fun y =>
        (comparison_fails op x y).bind fun r => .ok _
  | and a b iha ihb =>
      rw [Expr.childIndices, List.forall_mem_append] at enough
      rw [Expr.eval]
      refine (iha enough.1).bind fun v => (truth_fails "&&" v).bind fun x => ?_
      split
      · exact (ihb enough.2).bind fun w => (truth_fails "&&" w).bind fun y => .ok _
      · exact .ok _
  | or a b iha ihb =>
      rw [Expr.childIndices, List.forall_mem_append] at enough
      rw [Expr.eval]
      refine (iha enough.1).bind fun v => (truth_fails "||" v).bind fun x => ?_
      split
      · exact .ok _
      · exact (ihb enough.2).bind fun w => (truth_fails "||" w).bind fun y => .ok _
  | cond test a b iht iha ihb =>
      rw [Expr.childIndices, List.forall_mem_append, List.forall_mem_append] at enough
      rw [Expr.eval]
      refine (iht enough.1.1).bind fun v => (truth_fails "?:" v).bind fun x => ?_
      split
      · exact iha enough.1.2
      · exact ihb enough.2
  | call function arguments ih =>
      rw [Expr.childIndices, Expr.childIndicesOfList_eq] at enough
      rw [Expr.eval]
      refine (evalList_fails fun e he => ih e he fun index hi => ?_).bind (invoke_fails function)
      exact enough index (List.mem_flatMap.mpr ⟨e, he, hi⟩)

theorem runStatements_fails {p : Program} {last : Option Value}
    (enough : ∀ s ∈ p, ∀ index ∈ s.expr.childIndices, index < children.length) :
    FailsByValues (runStatements children locals last p) := by
  induction p generalizing locals last with
  | nil =>
      cases last with
      | none => exact .error trivial
      | some v => exact .ok _
  | cons s more ih =>
      have here := enough s List.mem_cons_self
      have later := fun s hs => enough s (List.mem_cons_of_mem _ hs)
      cases s with
      | assign name e =>
          rw [runStatements]
          exact (eval_fails here).bind fun v => ih later
      | result e =>
          rw [runStatements]
          exact eval_fails here
      | value e =>
          rw [runStatements]
          exact (eval_fails here).bind fun v => ih later

end Evaluation

namespace Program

/-- The check passes exactly the programs that ask for no child beyond the given number. -/
theorem check_eq_ok {p : Program} {arity : Nat} :
    p.check arity = .ok () ↔ ∀ index ∈ p.childIndices, index < arity := by
  rw [check]
  cases h : p.childIndices.max? with
  | none => simp [List.max?_eq_none_iff.mp h]
  | some highest =>
      obtain ⟨mem, bound⟩ := List.max?_eq_some_iff.mp h
      by_cases beyond : arity ≤ highest
      · simp only [beyond, if_true, reduceCtorEq, false_iff]
        intro all
        exact Nat.not_lt_of_le beyond (all highest mem)
      · simp only [beyond, if_false, true_iff]
        intro index hi
        have := bound index hi
        omega

theorem check_eq_error {p : Program} {arity : Nat} {e : ActionError}
    (h : p.check arity = .error e) :
    ∃ index, e = .missingChild index arity ∧ arity ≤ index ∧ p.AsksFor index ∧
      ∀ other, p.AsksFor other → other ≤ index := by
  simp only [← mem_childIndices_iff]
  rw [check] at h
  cases hm : p.childIndices.max? with
  | none =>
      rw [hm] at h
      cases h
  | some highest =>
      obtain ⟨mem, bound⟩ := List.max?_eq_some_iff.mp hm
      simp only [hm] at h
      split at h
      · next beyond =>
          cases h
          exact ⟨highest, rfl, beyond, mem, bound⟩
      · cases h

/-- A program that passes the check fails by values only, on any children of that number. -/
theorem run_fails {p : Program} {children : List Value} (h : p.check children.length = .ok ()) :
    FailsByValues (p.run children) := by
  rw [run]
  split
  · exact .ok _
  · refine runStatements_fails fun s hs index hi => ?_
    exact check_eq_ok.mp h index (List.mem_flatMap.mpr ⟨s, hs, hi⟩)

end Program

end PredictiveParsing.Action
