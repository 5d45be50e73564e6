import Mathlib.Data.List.Perm.Subperm
import Mathlib.Logic.Relation
import PredictiveParsing.Grammar.LeftRecursion
import PredictiveParsing.Proofs.Grammar.WellFormed

/-!
The check for left recursion leaves no cycle. A state that the walk is done with leads to
states that it was done with before, so that every path from it ends; the depth given to
the walk is never used up, since a path does not repeat a state.
-/
namespace PredictiveParsing.Grammar

/-- Every path of edges from the state ends. -/
abbrev Grounded (edges : String → List String) (state : String) : Prop :=
  Acc (fun w v => w ∈ edges v) state

theorem Grounded.no_cycle {edges : String → List String} {state : String}
    (h : Grounded edges state) : ¬Relation.TransGen (fun v w => w ∈ edges v) state state := by
  induction h with
  | intro v _ ih =>
      intro cycle
      obtain ⟨w, edge, back⟩ := Relation.TransGen.head'_iff.mp cycle
      exact ih w edge (.tail' back edge)

section Walk

variable {edges : String → List String} {names path done done' : List String}

/-- Steps that each finish one node and keep what is finished grounded do so together. -/
private theorem foldlM_grounded {β ε : Type} {k : β → String}
    {step : List String → β → Except ε (List String)} {xs : List β}
    (grounds : ∀ x ∈ xs, ∀ done done', (∀ v ∈ done, Grounded edges v) →
      step done x = .ok done' →
      done ⊆ done' ∧ k x ∈ done' ∧ ∀ v ∈ done', Grounded edges v)
    (grounded : ∀ v ∈ done, Grounded edges v) (h : xs.foldlM step done = .ok done') :
    done ⊆ done' ∧ (∀ x ∈ xs, k x ∈ done') ∧ ∀ v ∈ done', Grounded edges v := by
  induction xs generalizing done with
  | nil =>
      cases h
      exact ⟨List.Subset.refl _, nofun, grounded⟩
  | cons x xs ih =>
      rw [List.foldlM_cons] at h
      obtain ⟨next, hx, h⟩ := exists_of_bind_ok h
      obtain ⟨kept, finished, grounded'⟩ := grounds x List.mem_cons_self _ _ grounded hx
      obtain ⟨kept', others, grounded''⟩ :=
        ih (fun y hy => grounds y (List.mem_cons_of_mem x hy)) grounded' h
      refine ⟨fun v hv => kept' (kept hv), fun y hy => ?_, grounded''⟩
      rcases List.mem_cons.mp hy with rfl | hy
      · exact kept' finished
      · exact others y hy

theorem walk_grounded (closed : ∀ v ∈ names, edges v ⊆ names) {depth : Nat} {state : String}
    (declared : state ∈ names) (inside : path ⊆ names) (nodup : path.Nodup)
    (room : names.length < depth + path.length) (grounded : ∀ v ∈ done, Grounded edges v)
    (h : walk edges depth path done state = .ok done') :
    done ⊆ done' ∧ state ∈ done' ∧ ∀ v ∈ done', Grounded edges v := by
  induction depth generalizing path done done' state with
  | zero =>
      have fits := (List.subperm_of_subset nodup inside).length_le
      omega
  | succ depth ih =>
      rw [walk] at h
      split at h
      · cases h
      · next free =>
          split at h
          · next finished =>
              cases h
              exact ⟨List.Subset.refl _, finished, grounded⟩
          · obtain ⟨below, hb, h⟩ := exists_of_bind_ok h
            cases h
            have inside' : state :: path ⊆ names := List.cons_subset.mpr ⟨declared, inside⟩
            have room' : names.length < depth + (state :: path).length := by
              rw [List.length_cons]
              omega
            obtain ⟨kept, finished, grounded'⟩ :=
              foldlM_grounded (k := id) (fun next hn done done' grounded hw =>
                ih (closed state declared hn) inside' (List.nodup_cons.mpr ⟨free, nodup⟩)
                  room' grounded hw) grounded hb
            refine ⟨fun v hv => List.mem_cons_of_mem _ (kept hv), List.mem_cons_self, ?_⟩
            -- all that the state leads to is finished
            exact List.forall_mem_cons.mpr
              ⟨.intro state fun next hn => grounded' next (finished next hn), grounded'⟩

end Walk

variable {g : Grammar}

theorem mem_of_mem_leadingStates {symbols : List Symbol} {name : String}
    (h : name ∈ g.leadingStates symbols) : .state name ∈ symbols := by
  induction symbols with
  | nil => cases h
  | cons y more ih =>
      cases y with
      | token _ => cases h
      | epsilon => exact List.mem_cons_of_mem _ (ih h)
      | state other =>
          rw [leadingStates] at h
          split at h
          · rcases List.mem_cons.mp h with rfl | h
            · exact List.mem_cons_self
            · exact List.mem_cons_of_mem _ (ih h)
          · obtain rfl := List.mem_singleton.mp h
            exact List.mem_cons_self

theorem hasEpsilonRule_iff (wf : g.WellFormed) {name : String} :
    g.hasEpsilonRule name = true ↔ ∃ a, g.HasRule name a ∧ a.isEpsilon = true := by
  simp only [hasEpsilonRule, hasRule_iff wf]
  cases g.production? name with
  | none => simp
  | some p => simp [Production.epsilonAlternative?, List.findIdx?_isSome]

theorem mem_leftCorners (wf : g.WellFormed) {state name : String} :
    name ∈ g.leftCorners state ↔
      ∃ a, g.HasRule state a ∧ name ∈ g.leadingStates a.symbols := by
  simp only [leftCorners, hasRule_iff wf]
  cases g.production? state with
  | none => simp
  | some p => simp [List.mem_eraseDups, List.mem_flatMap]

theorem leftCorners_subset (wf : g.WellFormed) (state : String) :
    g.leftCorners state ⊆ g.states := by
  intro name h
  obtain ⟨a, rule, hn⟩ := (mem_leftCorners wf).mp h
  exact wf.state_declared rule (mem_of_mem_leadingStates hn)

theorem grounded_of_checkLeftRecursion (wf : g.WellFormed)
    (h : g.checkLeftRecursion = .ok ()) {state : String} (declared : state ∈ g.states) :
    Grounded g.leftCorners state := by
  obtain ⟨done, walked, -⟩ := exists_of_bind_ok h
  have room : g.states.length < g.productions.length + 2 + ([] : List String).length := by
    rw [states, List.length_map, List.length_nil]
    omega
  obtain ⟨-, finished, grounded⟩ := foldlM_grounded (k := Production.lhs)
    (fun p hp _ _ settled hw => walk_grounded (fun v _ => leftCorners_subset wf v)
      (List.mem_map_of_mem hp) (List.nil_subset _) .nil room settled hw)
    (fun _ hv => absurd hv List.not_mem_nil) walked
  obtain ⟨p, hp, rfl⟩ := List.mem_map.mp declared
  exact grounded p.lhs (finished p hp)

/-- No state can start with itself, at any distance. -/
theorem no_leftCorner_cycle (wf : g.WellFormed) (h : g.checkLeftRecursion = .ok ())
    (state : String) :
    ¬Relation.TransGen (fun v w => w ∈ g.leftCorners v) state state := by
  intro cycle
  obtain ⟨w, back, edge⟩ := Relation.TransGen.tail'_iff.mp cycle
  exact (grounded_of_checkLeftRecursion wf h (leftCorners_subset wf w edge)).no_cycle cycle

section Cycle

private theorem exists_of_foldlM_error {β ε : Type} {step : List String → β → Except ε (List String)}
    {xs : List β} {done : List String} {e : ε} (h : xs.foldlM step done = .error e) :
    ∃ x ∈ xs, ∃ done, step done x = .error e := by
  induction xs generalizing done with
  | nil => cases h
  | cons x xs ih =>
      rw [List.foldlM_cons] at h
      cases hx : step done x with
      | error e' =>
          rw [hx] at h
          cases h
          exact ⟨x, List.mem_cons_self, done, hx⟩
      | ok next =>
          rw [hx] at h
          obtain ⟨y, hy, failed⟩ := ih h
          exact ⟨y, List.mem_cons_of_mem x hy, failed⟩

/-- A walk fails where it meets its own path, which leads to the state again, and names that
state. -/
theorem cycle_of_walk {edges : String → List String} {path done : List String} {depth : Nat}
    {state : String} {e : GrammarError}
    (leads : ∀ v ∈ path, Relation.TransGen (fun v w => w ∈ edges v) v state)
    (h : walk edges depth path done state = .error e) :
    ∃ v, e = .leftRecursion v ∧ Relation.TransGen (fun v w => w ∈ edges v) v v := by
  induction depth generalizing path done state e with
  | zero => cases h
  | succ depth ih =>
      rw [walk] at h
      split at h
      · next busy =>
          cases h
          exact ⟨state, rfl, leads state busy⟩
      · split at h
        · cases h
        · cases hw : (edges state).foldlM
              (fun done next => walk edges depth (state :: path) done next) done with
          | ok below =>
              rw [hw] at h
              cases h
          | error e' =>
              rw [hw] at h
              cases h
              obtain ⟨next, edge, done', failed⟩ := exists_of_foldlM_error hw
              -- the state is on the path of its successor, and what led to it leads on
              refine ih (List.forall_mem_cons.mpr ⟨.single edge, ?_⟩) failed
              intro v hv
              exact (leads v hv).tail edge

theorem cycle_of_checkLeftRecursion {e : GrammarError} (h : g.checkLeftRecursion = .error e) :
    ∃ v, e = .leftRecursion v ∧ Relation.TransGen (fun v w => w ∈ g.leftCorners v) v v := by
  rw [checkLeftRecursion] at h
  cases hc : g.productions.foldlM
      (fun done p => walk g.leftCorners (g.productions.length + 2) [] done p.lhs) [] with
  | ok done =>
      rw [hc] at h
      cases h
  | error e' =>
      rw [hc] at h
      cases h
      obtain ⟨p, -, done, failed⟩ := exists_of_foldlM_error hc
      exact cycle_of_walk (fun _ hv => absurd hv List.not_mem_nil) failed

/-- The check passes exactly if no state can start with itself. -/
theorem checkLeftRecursion_iff (wf : g.WellFormed) :
    g.checkLeftRecursion = .ok () ↔
      ∀ state, ¬Relation.TransGen (fun v w => w ∈ g.leftCorners v) state state := by
  refine ⟨no_leftCorner_cycle wf, fun acyclic => ?_⟩
  cases hc : g.checkLeftRecursion with
  | ok _ => rfl
  | error e =>
      obtain ⟨state, -, cycle⟩ := cycle_of_checkLeftRecursion hc
      exact absurd cycle (acyclic state)

end Cycle

theorem sharesPrefix_eq_false {alternatives : List Alternative} :
    sharesPrefix alternatives = false ↔
      alternatives.Pairwise fun a b => b.symbols.head? ≠ a.symbols.head? := by
  induction alternatives with
  | nil => simp [sharesPrefix]
  | cons a more ih =>
      rw [sharesPrefix, Bool.or_eq_false_iff, ih, List.pairwise_cons, List.any_eq_false]
      simp

theorem checkPrefixes_iff : g.checkPrefixes = .ok () ↔
    ∀ p ∈ g.productions, sharesPrefix p.alternatives = false := by
  rw [checkPrefixes]
  cases hf : g.productions.find? fun p => sharesPrefix p.alternatives with
  | none => simpa using hf
  | some p =>
      have shared : sharesPrefix p.alternatives = true := by simpa using List.find?_some hf
      refine ⟨nofun, fun none => ?_⟩
      rw [none p (List.mem_of_find?_eq_some hf)] at shared
      cases shared

end PredictiveParsing.Grammar
