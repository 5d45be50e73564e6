import Mathlib.Data.List.Forall2
import Mathlib.Data.List.Infix
import Mathlib.Data.List.Nodup
import Mathlib.Data.List.Perm.Subperm
import PredictiveParsing.Grammar.TerminalSet

/-!
Tables of sets under growth. A pass extends every set at its front, so a pass that
leaves the size alone leaves the table alone; sets drawn from a finite stock of
terminals bound the number of passes, whatever limit the saturation is given.
-/
namespace PredictiveParsing.Grammar

namespace TerminalSet

@[simp] theorem mem_addAll {s : TerminalSet} {ts : List Terminal} {x : Terminal} :
    x ∈ s.addAll ts ↔ x ∈ s ∨ x ∈ ts := by
  rw [addAll]
  induction ts generalizing s with
  | nil => simp
  | cons t ts ih =>
      rw [List.foldl_cons, ih, List.mem_insert_iff, List.mem_cons]
      exact ⟨fun h => by tauto, fun h => by tauto⟩

theorem suffix_addAll (s : TerminalSet) (ts : List Terminal) : s <:+ s.addAll ts := by
  rw [addAll]
  induction ts generalizing s with
  | nil => exact List.suffix_refl s
  | cons t ts ih => exact (List.suffix_insert t s).trans (ih _)

theorem nodup_addAll {s : TerminalSet} (h : s.Nodup) (ts : List Terminal) :
    (s.addAll ts).Nodup := by
  rw [addAll]
  induction ts generalizing s with
  | nil => exact h
  | cons t ts ih => exact ih h.insert

@[simp] theorem mem_withoutEpsilon {s : TerminalSet} {x : Terminal} :
    x ∈ s.withoutEpsilon ↔ x ∈ s ∧ x ≠ .epsilon := by
  simp [withoutEpsilon]

end TerminalSet

namespace SetTable

def states (table : SetTable) : List String :=
  table.map (·.1)

theorem holds_cons (key : String) (s : TerminalSet) (table : SetTable) (state : String)
    (x : Terminal) :
    holds ((key, s) :: table) state x = true ↔
      (state = key ∧ x ∈ s) ∨ (state ≠ key ∧ table.holds state x = true) := by
  by_cases h : state = key
  · subst h
    simp [holds, get?]
  · have hk : (state == key) = false := by simpa using h
    simp [holds, get?, List.lookup_cons, hk, h]

theorem holds_iff {table : SetTable} {state : String} {x : Terminal} :
    table.holds state x = true ↔ ∃ s, table.get? state = some s ∧ x ∈ s := by
  rw [holds]
  cases h : table.get? state with
  | none => simp
  | some s => simp

@[simp] theorem holds_add (table : SetTable) (key : String) (ts : List Terminal)
    (state : String) (x : Terminal) :
    (table.add key ts).holds state x = true ↔
      table.holds state x = true ∨ (state = key ∧ x ∈ ts) := by
  induction table with
  | nil =>
      have none_held : holds [] state x = false := rfl
      simp [add, holds_cons, none_held]
  | cons row table ih =>
      obtain ⟨k, s⟩ := row
      by_cases hk : k = key
      · subst hk
        simp only [add, if_true, holds_cons, TerminalSet.mem_addAll]
        tauto
      · simp only [add, hk, if_false, holds_cons, ih]
        constructor
        · tauto
        · rintro ((h | h) | ⟨rfl, h⟩)
          · exact .inl h
          · exact .inr ⟨h.1, .inl h.2⟩
          · exact .inr ⟨fun e => hk e.symm, .inr ⟨rfl, h⟩⟩

theorem get?_isSome {table : SetTable} {state : String} (h : state ∈ table.states) :
    ∃ s, table.get? state = some s := by
  induction table with
  | nil => simp [states] at h
  | cons row table ih =>
      obtain ⟨k, s⟩ := row
      by_cases hk : state = k
      · subst hk
        exact ⟨s, List.lookup_cons_self⟩
      · obtain ⟨s', hs⟩ := ih (by simpa [states, hk] using h)
        have hb : (state == k) = false := by simpa using hk
        exact ⟨s', by simpa [get?, List.lookup_cons, hb] using hs⟩

theorem states_add {table : SetTable} {key : String} (h : key ∈ table.states)
    (ts : List Terminal) : (table.add key ts).states = table.states := by
  induction table with
  | nil => simp [states] at h
  | cons row table ih =>
      by_cases hk : row.1 = key
      · simp [add, hk, states]
      · have hm : key ∈ states table := by
          simpa [states, Ne.symm hk] using h
        simpa [add, hk, states] using ih hm

/-- What the empty set has and an addition keeps, every set of the table keeps. -/
theorem forall_add {motive : TerminalSet → Prop} {table : SetTable} {ts : List Terminal}
    (h : ∀ row ∈ table, motive row.2) (empty : motive [])
    (step : ∀ s : TerminalSet, motive s → motive (s.addAll ts)) (key : String) :
    ∀ row ∈ table.add key ts, motive row.2 := by
  induction table with
  | nil =>
      intro row hm
      obtain rfl := List.mem_singleton.mp hm
      exact step [] empty
  | cons r table ih =>
      have hr : motive r.2 := h r List.mem_cons_self
      have hrest : ∀ row ∈ table, motive row.2 := fun row hm => h row (List.mem_cons_of_mem r hm)
      intro row hm
      by_cases hk : r.1 = key
      · simp only [add, hk, if_true] at hm
        rcases List.mem_cons.mp hm with rfl | hm
        · exact step r.2 hr
        · exact hrest row hm
      · simp only [add, hk, if_false] at hm
        rcases List.mem_cons.mp hm with rfl | hm
        · exact hr
        · exact ih hrest row hm

/-- The tables have the same states in the same order, and every set of the second
one is the set of the first one grown at its front. -/
def Extends (a b : SetTable) : Prop :=
  List.Forall₂ (fun x y => x.1 = y.1 ∧ x.2 <:+ y.2) a b

theorem Extends.refl (a : SetTable) : Extends a a :=
  List.forall₂_same.mpr fun _ _ => ⟨rfl, List.suffix_refl _⟩

theorem Extends.trans {a b c : SetTable} (h : Extends a b) (k : Extends b c) : Extends a c := by
  induction h generalizing c with
  | nil => exact k
  | cons hx _ ih =>
      obtain ⟨y, c, hy, hc, rfl⟩ := List.forall₂_cons_left_iff.mp k
      exact .cons ⟨hx.1.trans hy.1, hx.2.trans hy.2⟩ (ih hc)

theorem Extends.size_le {a b : SetTable} (h : Extends a b) : a.size ≤ b.size := by
  induction h with
  | nil => exact Nat.le_refl _
  | cons hx _ ih => exact Nat.add_le_add hx.2.length_le ih

/-- A growth that the size does not show is none. -/
theorem Extends.eq_of_size_le {a b : SetTable} (h : Extends a b) (hs : b.size ≤ a.size) :
    a = b := by
  induction h with
  | nil => rfl
  | @cons x y a b hx hr ih =>
      have hl := hx.2.length_le
      have hz := Extends.size_le hr
      have hsum : y.2.length + size b ≤ x.2.length + size a := hs
      have hset : x.2 = y.2 := hx.2.eq_of_length_le (by omega)
      rw [Prod.ext hx.1 hset, ih (by omega)]

theorem Extends.antisymm {a b : SetTable} (h : Extends a b) (k : Extends b a) : a = b :=
  h.eq_of_size_le k.size_le

theorem Extends.holds {a b : SetTable} (h : Extends a b) {state : String} {x : Terminal}
    (hx : a.holds state x = true) : b.holds state x = true := by
  induction h with
  | nil => exact hx
  | @cons r r' a b hr _ ih =>
      rw [holds_cons] at hx ⊢
      rcases hx with ⟨hk, hm⟩ | ⟨hk, hm⟩
      · exact .inl ⟨hk.trans hr.1, hr.2.subset hm⟩
      · exact .inr ⟨fun e => hk (e.trans hr.1.symm), ih hm⟩

theorem Extends.states_eq {a b : SetTable} (h : Extends a b) : a.states = b.states := by
  induction h with
  | nil => rfl
  | cons hx _ ih => exact congrArg₂ List.cons hx.1 ih

theorem extends_add {table : SetTable} {key : String} (h : key ∈ table.states)
    (ts : List Terminal) : Extends table (table.add key ts) := by
  induction table with
  | nil => simp [states] at h
  | cons row table ih =>
      by_cases hk : row.1 = key
      · simp only [add, hk, if_true]
        exact .cons ⟨hk, TerminalSet.suffix_addAll _ _⟩ (Extends.refl table)
      · have hm : key ∈ states table := by
          simpa [states, Ne.symm hk] using h
        simp only [add, hk, if_false]
        exact .cons ⟨rfl, List.suffix_refl _⟩ (ih hm)

section Steps

variable {β : Type} {names : List String} {step : SetTable → β → SetTable}

theorem foldl_extends {xs : List β}
    (grows : ∀ t, t.states = names → ∀ x ∈ xs, Extends t (step t x)) {table : SetTable}
    (h : table.states = names) : Extends table (xs.foldl step table) := by
  induction xs generalizing table with
  | nil => exact .refl table
  | cons x xs ih =>
      have hx := grows table h x List.mem_cons_self
      exact hx.trans (ih (fun t ht y hy => grows t ht y (List.mem_cons_of_mem _ hy))
        (hx.states_eq ▸ h))

/-- Where a whole pass changes nothing, no step of it does. -/
theorem foldl_fixed {xs : List β}
    (grows : ∀ t, t.states = names → ∀ x ∈ xs, Extends t (step t x)) {table : SetTable}
    (h : table.states = names) (fixed : xs.foldl step table = table) :
    ∀ x ∈ xs, step table x = table := by
  induction xs with
  | nil => exact nofun
  | cons y xs ih =>
      have hy := grows table h y List.mem_cons_self
      have grows' := fun t ht x hx => grows t ht x (List.mem_cons_of_mem y hx)
      have hrest : Extends (step table y) table := by
        have hs := foldl_extends grows' (hy.states_eq ▸ h : (step table y).states = names)
        rwa [← List.foldl_cons, fixed] at hs
      have hsame : step table y = table := hrest.antisymm hy
      rw [List.foldl_cons, hsame] at fixed
      intro x hx
      rcases List.mem_cons.mp hx with rfl | hx
      · exact hsame
      · exact ih grows' fixed x hx

end Steps

theorem holds_of_add_eq {table : SetTable} {key : String} {ts : List Terminal}
    (h : table.add key ts = table) {x : Terminal} (hx : x ∈ ts) : table.holds key x = true := by
  rw [← h, holds_add]
  exact .inr ⟨rfl, hx⟩

/-- The table has these states, and its sets list terminals of the stock, each
once. -/
structure Within (names : List String) (stock : List Terminal) (table : SetTable) : Prop where
  states_eq : table.states = names
  nodup : ∀ row ∈ table, row.2.Nodup
  subset : ∀ row ∈ table, row.2 ⊆ stock

theorem Within.add {names : List String} {stock : List Terminal} {table : SetTable}
    (h : Within names stock table) {key : String} (hk : key ∈ names) {ts : List Terminal}
    (ht : ts ⊆ stock) : Within names stock (table.add key ts) := by
  have hkey : key ∈ table.states := h.states_eq ▸ hk
  have drawn : ∀ s : TerminalSet, s ⊆ stock → s.addAll ts ⊆ stock := by
    intro s hs x hx
    rcases TerminalSet.mem_addAll.mp hx with hx | hx
    · exact hs hx
    · exact ht hx
  refine ⟨(states_add hkey ts).trans h.states_eq, ?_, ?_⟩
  · exact forall_add h.nodup List.nodup_nil (fun s hs => TerminalSet.nodup_addAll hs ts) key
  · exact forall_add (motive := (· ⊆ stock)) h.subset (List.nil_subset stock) drawn key

theorem Within.size_le {names : List String} {stock : List Terminal} {table : SetTable}
    (h : Within names stock table) : table.size ≤ names.length * stock.length := by
  obtain ⟨rfl, hn, hs⟩ := h
  induction table with
  | nil => simp [size]
  | cons r table ih =>
      have hr : r.2.length ≤ stock.length :=
        (List.Nodup.subperm (hn r (by simp)) (hs r (by simp))).length_le
      have hrest := ih (fun row h => hn row (by simp [h])) (fun row h => hs row (by simp [h]))
      have hz : size (r :: table) = r.2.length + size table := rfl
      have hl : (states (r :: table)).length = (states table).length + 1 := by simp [states]
      rw [hz, hl, Nat.succ_mul]
      omega

theorem Within.holds_mem {names : List String} {stock : List Terminal} {table : SetTable}
    (h : Within names stock table) {state : String} {x : Terminal}
    (hx : table.holds state x = true) : x ∈ stock := by
  obtain ⟨-, -, hs⟩ := h
  induction table with
  | nil => simp [SetTable.holds, get?] at hx
  | cons r table ih =>
      rcases (holds_cons r.1 r.2 table state x).mp hx with ⟨-, hm⟩ | ⟨-, hm⟩
      · exact hs r (by simp) hm
      · exact ih hm (fun row h => hs row (by simp [h]))

/-- The passes from a table to its saturation, with no limit: each of them adds
something, but for the last one. -/
inductive Saturates (pass : SetTable → SetTable) : SetTable → SetTable → Nat → Prop where
  | last {table : SetTable} (h : ¬table.size < (pass table).size) :
      Saturates pass table (pass table) 1
  | more {table final : SetTable} {passes : Nat} (h : table.size < (pass table).size)
      (rest : Saturates pass (pass table) final passes) :
      Saturates pass table final (passes + 1)

section Saturation

variable {pass : SetTable → SetTable} {names : List String} {stock : List Terminal}

theorem Saturates.invariant {motive : SetTable → Prop}
    (step : ∀ t, motive t → motive (pass t))
    {table final : SetTable} {passes : Nat} (h : Saturates pass table final passes)
    (start : motive table) : motive final := by
  induction h with
  | last _ => exact step _ start
  | more _ _ ih => exact ih (step _ start)

/-- One further pass over a saturation changes nothing. -/
theorem Saturates.fixed (keeps : ∀ t, Within names stock t → Within names stock (pass t))
    (grows : ∀ t, Within names stock t → Extends t (pass t))
    {table final : SetTable} {passes : Nat} (h : Saturates pass table final passes)
    (start : Within names stock table) : pass final = final := by
  induction h with
  | last h =>
      have same := (grows _ start).eq_of_size_le (Nat.le_of_not_lt h)
      rw [← same, ← same]
  | more _ _ ih => exact ih (keeps _ start)

/-- The limit of a saturation is never what ends it, if it exceeds what the stock
leaves to be added. -/
theorem saturates_saturate (keeps : ∀ t, Within names stock t → Within names stock (pass t))
    {table : SetTable} (start : Within names stock table) {limit : Nat}
    (enough : names.length * stock.length < table.size + limit) :
    Saturates pass table (saturate pass limit table).1 (saturate pass limit table).2 := by
  induction limit generalizing table with
  | zero => exact absurd start.size_le (by omega)
  | succ limit ih =>
      simp only [saturate]
      split
      · next grown => exact .more grown (ih (keeps _ start) (by omega))
      · next still => exact .last still

end Saturation

end SetTable

section Order

theorem Terminal.le_trans (x y z : Terminal) (h : x.le y = true) (k : y.le z = true) :
    x.le z = true := by
  cases x <;> cases y <;> cases z <;> simp_all [Terminal.le]
  exact String.le_trans h k

theorem Terminal.le_total (x y : Terminal) : (x.le y || y.le x) = true := by
  cases x <;> cases y <;> simp [Terminal.le, String.le_total]

theorem Terminal.le_antisymm (x y : Terminal) (h : x.le y = true) (k : y.le x = true) : x = y := by
  cases x <;> cases y <;> simp_all [Terminal.le]
  exact String.le_antisymm h k

/-- Sets of the same members are listed in the same order. -/
theorem TerminalSet.sorted_congr {s t : TerminalSet} (hs : s.Nodup) (ht : t.Nodup)
    (same : ∀ x, x ∈ s ↔ x ∈ t) : s.sorted = t.sorted := by
  have perm : s.Perm t := (List.perm_ext_iff_of_nodup hs ht).mpr same
  refine List.Perm.eq_of_pairwise (fun x y _ _ => Terminal.le_antisymm x y)
    (List.pairwise_mergeSort Terminal.le_trans Terminal.le_total s)
    (List.pairwise_mergeSort Terminal.le_trans Terminal.le_total t) ?_
  exact ((List.mergeSort_perm s _).trans perm).trans (List.mergeSort_perm t _).symm

end Order

namespace SetTable

theorem Within.nodup_get? {names : List String} {stock : List Terminal} {table : SetTable}
    (h : Within names stock table) {state : String} {s : TerminalSet}
    (found : table.get? state = some s) : s.Nodup := by
  obtain ⟨before, behind, rfl, -⟩ := List.lookup_eq_some_iff.mp found
  exact h.nodup (state, s) (by simp)

theorem get?_eq_none {table : SetTable} {state : String} (h : state ∉ table.states) :
    table.get? state = none := by
  cases hs : table.get? state with
  | none => rfl
  | some s =>
      obtain ⟨before, behind, rfl, -⟩ := List.lookup_eq_some_iff.mp hs
      exact absurd (by simp [states]) h

/-- Tables that hold the same list the set of a state in the same order. -/
theorem Within.sorted_get? {names names' : List String} {stock stock' : List Terminal}
    {table table' : SetTable} (h : Within names stock table) (h' : Within names' stock' table')
    {state : String} (declared : state ∈ names ↔ state ∈ names')
    (same : ∀ x, table'.holds state x = table.holds state x) :
    (table'.get? state).map TerminalSet.sorted = (table.get? state).map TerminalSet.sorted := by
  by_cases listed : state ∈ names
  · obtain ⟨s, hs⟩ := get?_isSome (h.states_eq ▸ listed)
    obtain ⟨s', hs'⟩ := get?_isSome (h'.states_eq ▸ declared.mp listed)
    have members : ∀ x, x ∈ s' ↔ x ∈ s := by
      intro x
      simpa [holds, hs, hs'] using Bool.eq_iff_iff.mp (same x)
    rw [hs, hs', Option.map_some, Option.map_some,
      TerminalSet.sorted_congr (h'.nodup_get? hs') (h.nodup_get? hs) members]
  · have absent : state ∉ table.states := by rwa [h.states_eq]
    have absent' : state ∉ table'.states := by rwa [h'.states_eq, ← declared]
    rw [get?_eq_none absent, get?_eq_none absent']

end SetTable
end PredictiveParsing.Grammar
