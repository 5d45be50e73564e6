import PredictiveParsing.Proofs.Grammar.WellFormed
import PredictiveParsing.Report.ParsingTable

/-!
The printed predictive table by the names of its rows and columns. No two rows and no two
columns have one name, so that a cell is found by the two.
-/
namespace PredictiveParsing

/-- The cell in the row and the column of these names. The first row and the first cell of each
row have the names. -/
def Text.Grid.cell? (grid : Text.Grid) (row column : String) : Option String :=
  match grid with
  | [] => none
  | header :: rows =>
    (rows.find? fun cells => cells.head? == some row).bind fun cells =>
      (header.tail.zip cells.tail).lookup column

theorem lookup_map_of_nodup {α : Type} {xs : List α} {key value : α → String}
    (nodup : (xs.map key).Nodup) {x : α} (hx : x ∈ xs) :
    (xs.map fun x => (key x, value x)).lookup (key x) = some (value x) := by
  induction xs with
  | nil => cases hx
  | cons y xs ih =>
      rw [List.map_cons, List.nodup_cons] at nodup
      rcases List.mem_cons.mp hx with rfl | hx
      · simp
      · have other : (key x == key y) = false := by
          rw [beq_eq_false_iff_ne]
          exact fun same => nodup.1 (same ▸ List.mem_map_of_mem hx)
        rw [List.map_cons, List.lookup_cons, other]
        exact ih nodup.2 hx

namespace Report

open Grammar (PredictiveTable Production SetTable Terminal)

variable {g : Grammar}

theorem isToken_of_mem_columns {token : String} (h : .token token ∈ columns g) :
    g.isToken token = true := by
  rcases List.mem_append.mp h with h | h
  · obtain ⟨t, ht, same⟩ := List.mem_map.mp h
    cases same
    exact List.any_eq_true.mpr ⟨t, ht, beq_self_eq_true _⟩
  · cases List.mem_singleton.mp h

theorem nodup_columns (nodup : (g.tokens.map (·.name)).Nodup)
    (free : ∀ t ∈ g.tokens, t.name ≠ Grammar.epsilonName ∧ t.name ≠ Grammar.endName) :
    ((columns g).map Terminal.text).Nodup := by
  have texts : (columns g).map Terminal.text = g.tokens.map (·.name) ++ [Grammar.endName] := by
    simp [columns, Terminal.text, Function.comp_def]
  rw [texts]
  refine nodup.append (List.nodup_singleton _) ?_
  simpa using fun t ht => (free t ht).2

theorem shown_ne_blank (state text : String) : state ++ " → " ++ text ≠ "-" := by
  intro same
  have length := congrArg String.length same
  rw [String.length_append, String.length_append] at length
  change state.length + 3 + text.length = 1 at length
  omega

theorem cell?_parsingGrid {table : PredictiveTable} {follow : SetTable} {p : Production}
    {t : Terminal} (rows : g.states.Nodup) (columns : ((columns g).map Terminal.text).Nodup)
    (hp : p ∈ g.productions) (ht : t ∈ Report.columns g) :
    (parsingGrid g table follow).cell? p.lhs t.text = some (cellText table follow p t) := by
  have sorted := g.productions.mergeSort_perm fun a b => a.lhs ≤ b.lhs
  have nodup := (sorted.map Production.lhs).nodup_iff.mpr rows
  have found := find?_of_nodup nodup (sorted.mem_iff.mpr hp)
  rw [parsingGrid, Text.Grid.cell?, List.find?_map]
  have heads : ((fun cells : List String => cells.head? == some p.lhs) ∘ fun q : Production =>
      q.lhs :: (Report.columns g).map (cellText table follow q)) = (·.lhs == p.lhs) := by
    funext q
    simp
  rw [heads, found, Option.map_some, Option.bind_some, List.tail_cons, List.tail_cons,
    List.zip_map', lookup_map_of_nodup columns ht]

end Report
end PredictiveParsing
