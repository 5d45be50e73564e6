import Mathlib.Logic.Relation
import PredictiveParsing.Proofs.Grammar.WellFormed

/-!
Derivations of a grammar on sentential forms. They are stated without the sets and
the table, which later modules compare with them.
-/
namespace PredictiveParsing.Grammar

/-- One step of a derivation: a state is replaced by the symbols of one of its rules,
or an epsilon, which stands for nothing, is left out. -/
inductive Rewrites (g : Grammar) : List Symbol → List Symbol → Prop where
  | expand {state : String} {a : Alternative} (h : g.HasRule state a) (rest : List Symbol) :
      Rewrites g (.state state :: rest) (a.symbols ++ rest)
  | vanish (rest : List Symbol) : Rewrites g (.epsilon :: rest) rest
  | cons (x : Symbol) {u v : List Symbol} (h : Rewrites g u v) : Rewrites g (x :: u) (x :: v)

/-- A sentential form derives another one in any number of steps. -/
def Derives (g : Grammar) : List Symbol → List Symbol → Prop :=
  Relation.ReflTransGen g.Rewrites

variable {g : Grammar}

theorem Rewrites.append_left {u v : List Symbol} (h : g.Rewrites u v) (p : List Symbol) :
    g.Rewrites (p ++ u) (p ++ v) := by
  induction p with
  | nil => exact h
  | cons x p ih => exact .cons x ih

theorem Rewrites.append_right {u v : List Symbol} (h : g.Rewrites u v) (q : List Symbol) :
    g.Rewrites (u ++ q) (v ++ q) := by
  induction h with
  | expand h rest => simpa only [List.cons_append, List.append_assoc] using expand h (rest ++ q)
  | vanish rest => exact vanish (rest ++ q)
  | cons x _ ih => exact .cons x ih

theorem Derives.refl (u : List Symbol) : g.Derives u u :=
  Relation.ReflTransGen.refl

theorem Derives.trans {u v w : List Symbol} (h : g.Derives u v) (k : g.Derives v w) :
    g.Derives u w :=
  Relation.ReflTransGen.trans h k

theorem Rewrites.derives {u v : List Symbol} (h : g.Rewrites u v) : g.Derives u v :=
  Relation.ReflTransGen.single h

theorem Derives.append_left {u v : List Symbol} (h : g.Derives u v) (p : List Symbol) :
    g.Derives (p ++ u) (p ++ v) := by
  induction h with
  | refl => exact .refl _
  | tail _ step ih => exact ih.trans (step.append_left p).derives

theorem Derives.append_right {u v : List Symbol} (h : g.Derives u v) (q : List Symbol) :
    g.Derives (u ++ q) (v ++ q) := by
  induction h with
  | refl => exact .refl _
  | tail _ step ih => exact ih.trans (step.append_right q).derives

theorem Derives.append {u v u' v' : List Symbol} (h : g.Derives u u') (k : g.Derives v v') :
    g.Derives (u ++ v) (u' ++ v') :=
  (h.append_right v).trans (k.append_left u')

theorem HasRule.derives {state : String} {a : Alternative} (h : g.HasRule state a) :
    g.Derives [.state state] a.symbols := by
  simpa only [List.append_nil] using (Rewrites.expand h []).derives

theorem derives_epsilon (more : List Symbol) : g.Derives (.epsilon :: more) more :=
  (Rewrites.vanish more).derives

theorem Derives.cons {u v : List Symbol} (h : g.Derives u v) (x : Symbol) :
    g.Derives (x :: u) (x :: v) :=
  h.append_left [x]

theorem Derives.drop {u : List Symbol} (h : g.Derives u []) (v : List Symbol) :
    g.Derives (u ++ v) v :=
  h.append_right v

end PredictiveParsing.Grammar
