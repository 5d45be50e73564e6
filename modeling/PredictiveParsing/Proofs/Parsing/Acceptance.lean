import PredictiveParsing.Pattern.Search
import PredictiveParsing.Proofs.Parsing.Prediction
import PredictiveParsing.Proofs.Report.ParsingTable

/-!
What a state accepts, in three places: the rule that is selected for its visit, the names that
are expected where none is, and the row of the printed table. All three are the entries of the
table and, for a state that can vanish, what follows it.
-/
namespace PredictiveParsing.Parsing

open Grammar (Alternative Terminal)

variable {V P : Type}

/-- Names that are added unless they are there already. -/
theorem mem_foldl_new {names known : List String} {name : String} :
    name ∈ names.foldl (fun known n => if n ∈ known then known else known ++ [n]) known ↔
      name ∈ known ∨ name ∈ names := by
  induction names generalizing known with
  | nil => simp
  | cons n names ih =>
      rw [List.foldl_cons, ih]
      by_cases h : n ∈ known
      · simp only [h, if_true, List.mem_cons]
        grind
      · simp only [h, if_false, List.mem_append, List.mem_cons]
        grind

theorem nodup_foldl_new {names known : List String} (nodup : known.Nodup) :
    (names.foldl (fun known n => if n ∈ known then known else known ++ [n]) known).Nodup := by
  induction names generalizing known with
  | nil => exact nodup
  | cons n names ih =>
      rw [List.foldl_cons]
      apply ih
      split
      · exact nodup
      · next new => exact nodup.append (List.nodup_singleton n) (by simpa using new)

namespace Compiled

variable {c : Compiled V P} {state : String} {next : Terminal}

section Expected

theorem mem_expected {table : Grammar.PredictiveTable} {name : String} :
    name ∈ table.expected state ↔ ∃ index, table.rule? state name = some index := by
  rw [Grammar.PredictiveTable.expected, Grammar.PredictiveTable.rule?,
    ← Option.isSome_iff_exists]
  cases table.row? state with
  | none => simp
  | some row =>
      simp only [List.mem_mergeSort, List.mem_map, Option.bind_some, List.lookup_isSome_iff,
        beq_iff_eq, @eq_comm _ name]

theorem mem_expectedNames {name : String} :
    name ∈ c.expectedNames state ↔ (∃ index, c.table.rule? state name = some index) ∨
      ((c.table.emptyRule? state).isSome = true ∧
        ∃ x, c.follow.holds state x = true ∧ x.name = name) := by
  rw [← mem_expected, expectedNames]
  cases c.table.emptyRule? state with
  | none => simp
  | some index =>
      cases hs : c.follow.get? state with
      | none => simp [Grammar.SetTable.holds, hs]
      | some s =>
          simp [mem_foldl_new, Grammar.SetTable.holds, hs, Grammar.TerminalSet.sorted,
            List.mem_mergeSort]

theorem nodup_expectedNames (wf : c.WellFormed) (nodup : (c.grammar.tokens.map (·.name)).Nodup)
    (state : String) : (c.expectedNames state).Nodup := by
  have tokens : (c.table.expected state).Nodup := by
    rw [wf.table_eq, Grammar.expected_predictiveTable]
    cases c.grammar.production? state with
    | none => exact .nil
    | some p =>
        dsimp only
        rw [(List.mergeSort_perm _ _).nodup_iff]
        exact nodup.sublist (List.filter_sublist.map _)
  rw [expectedNames]
  split
  · exact nodup_foldl_new tokens
  · exact tokens

end Expected

section Selection

theorem exists_select? :
    (∃ index viaFollow, c.select? state next = some (index, viaFollow)) ↔
      (∃ token index, next = .token token ∧ c.table.rule? state token = some index) ∨
        (c.table.emptyRule? state).isSome = true ∧ c.follow.holds state next = true := by
  constructor
  · rintro ⟨index, viaFollow, selected⟩
    cases viaFollow with
    | false =>
        obtain ⟨token, rfl, rule⟩ := select?_eq_table.mp selected
        exact .inl ⟨token, index, rfl, rule⟩
    | true =>
        obtain ⟨-, follows, empty⟩ := select?_eq_follow.mp selected
        exact .inr ⟨Option.isSome_iff_exists.mpr ⟨index, empty⟩, follows⟩
  · rintro (⟨token, index, rfl, rule⟩ | ⟨empty, follows⟩)
    · exact ⟨index, false, select?_eq_table.mpr ⟨token, rfl, rule⟩⟩
    · obtain ⟨index, empty⟩ := Option.isSome_iff_exists.mp empty
      by_cases entry : ∃ token i, next = .token token ∧ c.table.rule? state token = some i
      · obtain ⟨token, i, ahead, rule⟩ := entry
        exact ⟨i, false, select?_eq_table.mpr ⟨token, ahead, rule⟩⟩
      · refine ⟨index, true, select?_eq_follow.mpr ⟨fun token ahead => ?_, follows, empty⟩⟩
        exact Option.eq_none_iff_forall_ne_some.mpr fun i rule => entry ⟨token, i, ahead, rule⟩

theorem select?_iff_expected (wf : c.WellFormed) (state : String)
    (free : ∀ t ∈ c.grammar.tokens, t.name ≠ Grammar.epsilonName ∧ t.name ≠ Grammar.endName)
    (column : next ∈ Report.columns c.grammar) :
    (∃ index viaFollow, c.select? state next = some (index, viaFollow)) ↔
      next.name ∈ c.expectedNames state := by
  have declared : ∀ token, next = .token token → c.grammar.isToken token = true := by
    rintro token rfl
    exact Report.isToken_of_mem_columns column
  rw [exists_select?, mem_expectedNames]
  refine or_congr ⟨?_, ?_⟩ (and_congr_right fun _ => ⟨fun follows => ⟨next, follows, rfl⟩, ?_⟩)
  · rintro ⟨token, index, rfl, rule⟩
    exact ⟨index, rule⟩
  · rintro ⟨index, rule⟩
    have named := (Grammar.rule?_eq_some.mp (wf.table_eq ▸ rule)).1
    refine ⟨next.name, index, ?_, rule⟩
    refine (Terminal.eq_of_name_eq free (x := .token next.name) ?_ declared rfl).symm
    rintro token ⟨⟩
    exact named
  · rintro ⟨x, follows, same⟩
    rw [← Terminal.eq_of_name_eq free ?_ declared same]
    · exact follows
    · rintro token rfl
      rw [wf.follow_eq] at follows
      exact Grammar.isToken_of_holds_follow wf.grammar follows

theorem cellRule?_eq : Report.cellRule? c.table c.follow state next =
    (c.select? state next).map (·.1) := by
  cases next with
  | token token =>
      simp only [Report.cellRule?, select?]
      cases c.table.rule? state token with
      | some index => rfl
      | none => cases c.follow.holds state (.token token) <;> cases c.table.emptyRule? state <;> rfl
  | epsilon =>
      simp only [Report.cellRule?, select?]
      cases c.follow.holds state .epsilon <;> cases c.table.emptyRule? state <;> rfl
  | endOfInput =>
      simp only [Report.cellRule?, select?]
      cases c.follow.holds state .endOfInput <;> cases c.table.emptyRule? state <;> rfl

end Selection

section Visit

variable {stream : Stream} {levels depth : Nat} {r : Run}

/-- The first step of the visit expands the state by the rule. -/
def Expands (c : Compiled V P) (stream : Stream) (levels depth : Nat) (state : String) (r : Run)
    (a : Alternative) : Prop :=
  ∃ viaFollow more, (c.visitState stream (levels + 1) depth state r).2.steps.toList =
    r.steps.toList ++ ⟨depth, state, r.cursor, r.lookahead stream, .expand a viaFollow⟩ :: more

theorem expands_of_select? (wf : c.WellFormed) (free : (state, r.cursor) ∉ r.active)
    {index : Nat} {viaFollow : Bool} {a : Alternative}
    (selected : c.select? state (nextTerminal stream r) = some (index, viaFollow))
    (rule : c.grammar.alternative? state index = some a) :
    c.Expands stream levels depth state r a := by
  have inside : Advances 0 (r.enter stream depth state a viaFollow)
      (c.visitSymbols stream (depth + 1) (c.visitState stream levels (depth + 1)) a.symbols
        (r.enter stream depth state a viaFollow)) := visitSymbols_advances wf (Nat.zero_le _)
  obtain ⟨more, steps, -⟩ := inside.steps
  refine ⟨viaFollow, more, ?_⟩
  rw [visitState_expand wf free selected rule]
  generalize c.visitSymbols stream (depth + 1) (c.visitState stream levels (depth + 1)) a.symbols
    (r.enter stream depth state a viaFollow) = o at steps ⊢
  have kept : (o.andThen fun children after =>
      (act c.evaluator state a children, after.leave state r.cursor)).2.steps = o.2.steps := by
    obtain ⟨_ | _, _⟩ := o <;> rfl
  rw [kept, steps, Run.enter_steps, List.append_assoc]
  rfl

theorem visitState_refused (free : (state, r.cursor) ∉ r.active)
    (none : c.select? state (nextTerminal stream r) = none) :
    c.visitState stream (levels + 1) depth state r =
      unexpected stream depth state (.names (c.expectedNames state))
        { r with active := (state, r.cursor) :: r.active } := by
  rw [visitState_succ, if_neg free, expand_unexpected none]

theorem expands_iff (wf : c.WellFormed) (free : (state, r.cursor) ∉ r.active) {a : Alternative} :
    c.Expands stream levels depth state r a ↔
      ∃ index viaFollow, c.select? state (nextTerminal stream r) = some (index, viaFollow) ∧
        c.grammar.alternative? state index = some a := by
  constructor
  · rintro ⟨viaFollow, more, steps⟩
    cases selected : c.select? state (nextTerminal stream r) with
    | none =>
        rw [visitState_refused free selected, unexpected, Run.record_steps] at steps
        cases (List.cons.inj (List.append_cancel_left steps)).1
    | some found =>
        obtain ⟨b, rule⟩ := exists_alternative? wf selected
        obtain ⟨_, _, steps'⟩ := expands_of_select? wf free selected rule
        rw [steps'] at steps
        cases (List.cons.inj (List.append_cancel_left steps)).1
        exact ⟨found.1, found.2, rfl, rule⟩
  · rintro ⟨index, viaFollow, selected, rule⟩
    exact expands_of_select? wf free selected rule

theorem exists_expands_iff (wf : c.WellFormed) (free : (state, r.cursor) ∉ r.active) :
    (∃ a, c.Expands stream levels depth state r a) ↔
      ∃ index viaFollow, c.select? state (nextTerminal stream r) = some (index, viaFollow) := by
  constructor
  · rintro ⟨a, expands⟩
    obtain ⟨index, viaFollow, selected, -⟩ := (expands_iff wf free).mp expands
    exact ⟨index, viaFollow, selected⟩
  · rintro ⟨index, viaFollow, selected⟩
    obtain ⟨a, rule⟩ := exists_alternative? wf selected
    exact ⟨a, expands_of_select? wf free selected rule⟩

end Visit

/-- The cell of a state and a terminal shows the rule that is selected. -/
theorem exists_cell (wf : c.WellFormed)
    (nodup : ((Report.columns c.grammar).map Terminal.text).Nodup)
    (declared : state ∈ c.grammar.states) (column : next ∈ Report.columns c.grammar) :
    ∃ cell, (Report.parsingGrid c.grammar c.table c.follow).cell? state next.text = some cell ∧
      (c.select? state next = none → cell = "-") ∧
      ∀ index viaFollow a, c.select? state next = some (index, viaFollow) →
        c.grammar.alternative? state index = some a → cell = state ++ " → " ++ a.text := by
  obtain ⟨p, hp, rfl⟩ := List.mem_map.mp declared
  refine ⟨_, Report.cell?_parsingGrid wf.grammar.states_nodup nodup hp column, ?_, ?_⟩
  · intro none
    rw [Report.cellText, cellRule?_eq, none]
    rfl
  · intro index viaFollow a selected rule
    have found := (Grammar.production?_eq_some wf.grammar).mpr ⟨hp, rfl⟩
    rw [Grammar.alternative?, found, Option.bind_some] at rule
    rw [Report.cellText, cellRule?_eq, selected, Option.map_some, Option.bind_some, rule]

/-- What a state accepts is told alike in three places: a visit expands the state by a rule with
a terminal ahead exactly if the name of the terminal is among those expected, and exactly if its
cell in the printed table is not blank. The cell then shows that rule. Otherwise the visit fails
at once, with the names. -/
theorem accepts_alike {patterns : String → Option Text.Matcher}
    {evaluator : Action.Evaluator V P} {options : Options} {d : Grammar.Declarations}
    (h : ofDeclarations patterns evaluator options d = .ok c)
    (declared : state ∈ c.grammar.states) :
    (c.expectedNames state).Nodup ∧
    ∀ t ∈ Report.columns c.grammar, ∃ cell,
      (Report.parsingGrid c.grammar c.table c.follow).cell? state t.text = some cell ∧
      (t.name ∈ c.expectedNames state ↔ cell ≠ "-") ∧
      ∀ stream levels depth r, nextTerminal stream r = t → (state, r.cursor) ∉ r.active →
        ((∃ a, c.Expands stream levels depth state r a) ↔ t.name ∈ c.expectedNames state) ∧
        (∀ a, c.Expands stream levels depth state r a → cell = state ++ " → " ++ a.text ∧
          ∃ index, Report.cellRule? c.table c.follow state t = some index ∧
            c.grammar.alternative? state index = some a) ∧
        (t.name ∉ c.expectedNames state →
          c.visitState stream (levels + 1) depth state r =
            unexpected stream depth state (.names (c.expectedNames state))
              { r with active := (state, r.cursor) :: r.active }) := by
  obtain ⟨wf, -, -, resolved⟩ := ofDeclarations_ok h
  obtain ⟨names, free⟩ := Grammar.tokenNames_of_ofDeclarations resolved
  refine ⟨nodup_expectedNames wf names state, fun t column => ?_⟩
  have expected := select?_iff_expected wf state free column
  have none_of_not_expected : t.name ∉ c.expectedNames state → c.select? state t = none := by
    intro other
    refine Option.eq_none_iff_forall_ne_some.mpr fun selected same => other ?_
    exact expected.mp ⟨selected.1, selected.2, same⟩
  obtain ⟨cell, found, blank, filled⟩ :=
    exists_cell wf (Report.nodup_columns names free) declared column
  refine ⟨cell, found, ⟨fun member => ?_, fun shown => ?_⟩, ?_⟩
  · obtain ⟨index, viaFollow, selected⟩ := expected.mpr member
    obtain ⟨a, rule⟩ := exists_alternative? wf selected
    rw [filled index viaFollow a selected rule]
    exact Report.shown_ne_blank state a.text
  · by_contra other
    exact shown (blank (none_of_not_expected other))
  · rintro stream levels depth r rfl outside
    refine ⟨?_, fun a expands => ?_, fun other => ?_⟩
    · exact (exists_expands_iff wf outside).trans expected
    · obtain ⟨index, viaFollow, selected, rule⟩ := (expands_iff wf outside).mp expands
      refine ⟨filled index viaFollow a selected rule, index, ?_, rule⟩
      rw [cellRule?_eq, selected]
      rfl
    · exact visitState_refused outside (none_of_not_expected other)

/-- Two optional words. The first one begins with a token that may follow it as well. -/
def optionalWords : Grammar.Declarations where
  tokens := [⟨"a", "a"⟩, ⟨"b", "b"⟩]
  rules := [.ofWords "s" "A B" "x", .ofWords "A" "a" "y", .ofWords "A" "EPS" "z",
    .ofWords "B" "a" "v", .ofWords "B" "EPS" "w"]

theorem accepts_alike_optionalWords :
    ∃ c, ofDeclarations Pattern.matcher? Action.outline .standard optionalWords = .ok c ∧
      (c.first.holds "A" (.token "a") = true ∧ c.follow.holds "A" (.token "a") = true) ∧
      (∀ t ∈ [Terminal.token "a", .endOfInput], t.name ∈ c.expectedNames "A" ∧
        ∃ a, (Report.parsingGrid c.grammar c.table c.follow).cell? "A" t.text =
          some ("A" ++ " → " ++ a.text) ∧ c.grammar.HasRule "A" a) ∧
      "b" ∉ c.expectedNames "A" ∧
      (Report.parsingGrid c.grammar c.table c.follow).cell? "A" "b" = some "-" ∧
      c.visitState ⟨#[⟨"b", "b", 0⟩], 1⟩ 1 0 "A" .initial = unexpected ⟨#[⟨"b", "b", 0⟩], 1⟩ 0 "A"
        (.names (c.expectedNames "A")) ⟨0, [("A", 0)], #[]⟩ := by
  obtain ⟨c, compiled, columns, declared, first, follows, atToken, atEnd, atOther⟩ :
      ∃ c, ofDeclarations Pattern.matcher? Action.outline .standard optionalWords = .ok c ∧
        Report.columns c.grammar = [.token "a", .token "b", .endOfInput] ∧
        "A" ∈ c.grammar.states ∧ c.first.holds "A" (.token "a") = true ∧
        c.follow.holds "A" (.token "a") = true ∧ c.select? "A" (.token "a") = some (0, false) ∧
        c.select? "A" .endOfInput = some (1, true) ∧ c.select? "A" (.token "b") = none :=
    ⟨_, rfl, rfl, by decide +kernel, by decide +kernel, by decide +kernel, by decide +kernel,
      by decide +kernel, by decide +kernel⟩
  obtain ⟨wf, -⟩ := ofDeclarations_ok compiled
  obtain ⟨-, each⟩ := accepts_alike compiled declared
  rw [columns] at each
  refine ⟨c, compiled, ⟨first, follows⟩, fun t ht => ?_, ?_⟩
  · obtain ⟨stream, ahead, index, viaFollow, selected⟩ : ∃ stream,
        nextTerminal stream .initial = t ∧
          ∃ index viaFollow, c.select? "A" t = some (index, viaFollow) := by
      rcases List.mem_pair.mp ht with rfl | rfl
      · exact ⟨⟨#[⟨"a", "a", 0⟩], 1⟩, rfl, _, _, atToken⟩
      · exact ⟨⟨#[], 0⟩, rfl, _, _, atEnd⟩
    obtain ⟨cell, found, -, visits⟩ := each t (by grind)
    obtain ⟨accepted, shown, -⟩ := visits stream 0 0 .initial ahead List.not_mem_nil
    obtain ⟨a, rule⟩ := exists_alternative? wf selected
    have expands : c.Expands stream 0 0 "A" .initial a :=
      expands_of_select? wf List.not_mem_nil (ahead ▸ selected) rule
    rw [(shown a expands).1] at found
    exact ⟨accepted.mp ⟨a, expands⟩, a, found, Grammar.hasRule_of_alternative? rule⟩
  · obtain ⟨cell, found, blank, visits⟩ := each (.token "b") (by decide)
    obtain ⟨accepted, -, refused⟩ :=
      visits ⟨#[⟨"b", "b", 0⟩], 1⟩ 0 0 .initial rfl List.not_mem_nil
    have other : "b" ∉ c.expectedNames "A" := by
      intro member
      obtain ⟨a, expands⟩ := accepted.mpr member
      obtain ⟨_, _, selected, -⟩ := (expands_iff wf List.not_mem_nil).mp expands
      cases atOther.symm.trans selected
    refine ⟨other, ?_, refused other⟩
    have dash : cell = "-" := by
      by_contra shown
      exact other (blank.mpr shown)
    rw [← dash]
    exact found

end Compiled
end PredictiveParsing.Parsing
