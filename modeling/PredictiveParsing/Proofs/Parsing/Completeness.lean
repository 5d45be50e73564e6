import PredictiveParsing.Proofs.Parsing.Lookahead
import PredictiveParsing.Proofs.Parsing.Nesting

/-!
A parse without conflicts is complete. Wherever a tree stands ahead, the visits follow
it: the rule selected is the one at its root, the guard against expansions without
progress would need the tree to be a part of itself, and the nesting is bounded by the
states and positions there are.
-/
namespace PredictiveParsing.Parsing

open Grammar (Alternative Symbol Followed)
open PredictiveParsing.Parsing.Tree (leavesOf valuesOf)

variable {V P : Type}

/-- The outcome is this value or failure; the tokens are read if there is a value. -/
structure Gives {α : Type} (stream : Stream) (r : Run) (tokens : List Token)
    (x : Except ParseError α) (o : Outcome α) : Prop where
  value : o.1 = x
  reads : ∀ a, x = .ok a → Reads stream r tokens o.2

namespace Gives

variable {α β : Type} {stream : Stream} {r : Run}

theorem nil (stream : Stream) (r : Run) : Gives stream r [] (.ok ([] : List α)) (.ok [], r) :=
  ⟨rfl, fun _ _ => .refl stream r⟩

/-- One outcome in front of the outcomes of the rest, as visits of symbols are. -/
theorem cons {us vs : List Token} {x : Except ParseError α} {y : Except ParseError (List α)}
    {o : Outcome α} {k : Run → Outcome (List α)} (first : Gives stream r us x o)
    (more : ∀ r', Reads stream r us r' → Gives stream r' vs y (k r')) :
    Gives stream r (us ++ vs) (do let a ← x; let as ← y; pure (a :: as))
      (o.andThen fun a r => (k r).andThen fun as r => (.ok (a :: as), r)) := by
  obtain ⟨result, r'⟩ := o
  obtain rfl : result = x := first.value
  cases result with
  | error e => exact ⟨rfl, nofun⟩
  | ok a =>
      have before := first.reads a rfl
      have more := more r' before
      change Gives stream r (us ++ vs) (do let as ← y; pure (a :: as))
        ((k r').andThen fun as r => (.ok (a :: as), r))
      generalize k r' = o at more ⊢
      obtain ⟨results, r''⟩ := o
      obtain rfl : results = y := more.value
      cases results with
      | error e => exact ⟨rfl, nofun⟩
      | ok as => exact ⟨rfl, fun _ _ => before.trans (more.reads as rfl)⟩

theorem leave {depth : Nat} {state : String} {a : Alternative} {viaFollow : Bool}
    {tokens : List Token} {x : Except ParseError α} {o : Outcome α}
    (h : Gives stream (r.enter stream depth state a viaFollow) tokens x o)
    (f : α → Except ParseError β) :
    Gives stream r tokens (x >>= f)
      (o.andThen fun a after => (f a, after.leave state r.cursor)) := by
  obtain ⟨result, after⟩ := o
  obtain rfl : result = x := h.value
  cases result with
  | error e => exact ⟨rfl, nofun⟩
  | ok a => exact ⟨rfl, fun _ _ => (h.reads a rfl).leave⟩

end Gives

namespace Compiled

variable {c : Compiled V P} {stream : Stream} {r : Run}

/-- The tokens ahead are those of the tree, and what is behind them can follow it. -/
structure Ahead (c : Compiled V P) (stream : Stream) (r : Run) (state : String) (t : Tree) :
    Prop where
  tree : IsTree c.grammar state t
  rest : ∃ rest, r.remaining stream = t.leaves ++ rest ∧ c.follow.holds state (peek rest) = true

theorem Ahead.congr {r' : Run} {state : String} {t : Tree} (h : c.Ahead stream r state t)
    (hc : r'.cursor = r.cursor) : c.Ahead stream r' state t := by
  refine ⟨h.tree, ?_⟩
  rw [Run.remaining_congr hc]
  exact h.rest

theorem Ahead.unique (wf : c.WellFormed) (ll1 : c.grammar.IsLL1 c.first c.follow)
    {state : String} {t u : Tree} (ht : c.Ahead stream r state t)
    (hu : c.Ahead stream r state u) : t = u := by
  obtain ⟨rest, split, follows⟩ := ht.rest
  obtain ⟨rest', split', follows'⟩ := hu.rest
  exact tree_unique wf ll1 ht.tree hu.tree follows follows' (split.symm.trans split')

/-- How a run stands inside trees. A state that is being expanded at the position is
the root of a tree there that is no smaller than the bound, and there are more levels left
than states and positions to be expanded. -/
structure Inside (c : Compiled V P) (stream : Stream) (levels bound : Nat) (r : Run) : Prop where
  within : r.cursor ≤ stream.tokens.size
  nodup : r.active.Nodup
  entered : ∀ e ∈ r.active, e.1 ∈ c.grammar.states ∧ e.2 ≤ r.cursor
  larger : ∀ state, (state, r.cursor) ∈ r.active →
    ∃ t, c.Ahead stream r state t ∧ bound ≤ sizeOf t
  room : c.grammar.states.length * (stream.tokens.size + 1) < levels + r.active.length

namespace Inside

variable {levels bound : Nat}

theorem initial
    (deep : c.grammar.states.length * (stream.tokens.size + 1) ≤ c.options.maxDepth) :
    c.Inside stream (c.options.maxDepth + 1) bound .initial := by
  refine ⟨Nat.zero_le _, .nil, nofun, nofun, ?_⟩
  exact Nat.lt_succ_of_le deep

/-- Tokens that are read lead to a position at which fewer states are being expanded. -/
theorem reads (h : c.Inside stream levels bound r) {tokens : List Token} {r' : Run}
    (reads : Reads stream r tokens r') : c.Inside stream levels bound r' := by
  have hc := reads.cursor
  refine ⟨reads.within h.within, reads.active ▸ h.nodup, ?_, ?_, reads.active ▸ h.room⟩
  · intro e he
    obtain ⟨hs, hle⟩ := h.entered e (reads.active ▸ he)
    exact ⟨hs, by omega⟩
  · intro state hm
    rw [reads.active] at hm
    have hle := (h.entered _ hm).2
    have same : r'.cursor = r.cursor := by
      dsimp only at hle
      omega
    rw [same] at hm
    obtain ⟨t, ahead, size⟩ := h.larger state hm
    exact ⟨t, ahead.congr same, size⟩

theorem nested (h : c.Inside stream levels bound r) : c.Nested stream r :=
  ⟨h.within, h.nodup, fun e he => (h.entered e he).imp_right fun hle => hle.trans h.within⟩

/-- The states that are being expanded are fewer than the levels there were. -/
theorem exists_level (h : c.Inside stream levels bound r) : ∃ n, levels = n + 1 := by
  have count := h.nested.length_le
  have room := h.room
  exact Nat.exists_eq_add_one.mpr (by omega)

/-- A state with a smaller tree ahead is not being expanded at the position. -/
theorem free (h : c.Inside stream levels bound r) (wf : c.WellFormed)
    (ll1 : c.grammar.IsLL1 c.first c.follow) {state : String} {t : Tree}
    (ahead : c.Ahead stream r state t) (small : sizeOf t < bound) :
    (state, r.cursor) ∉ r.active := by
  intro busy
  -- the larger tree at the same position would be the same tree
  obtain ⟨u, hu, size⟩ := h.larger state busy
  rw [ahead.unique wf ll1 hu] at small
  omega

theorem enter (h : c.Inside stream (levels + 1) bound r) {depth : Nat} {state : String}
    {a : Alternative} {viaFollow : Bool} {t : Tree} (free : (state, r.cursor) ∉ r.active)
    (ahead : c.Ahead stream r state t) (small : sizeOf t < bound) :
    c.Inside stream levels (sizeOf t) (r.enter stream depth state a viaFollow) := by
  refine ⟨h.within, ?_, ?_, ?_, ?_⟩
  · exact List.nodup_cons.mpr ⟨free, h.nodup⟩
  · intro e he
    rcases List.mem_cons.mp he with rfl | he
    · obtain ⟨index, a, ks, -, rule, -⟩ := isTree_iff.mp ahead.tree
      exact ⟨(Grammar.hasRule_of_alternative? rule).state_mem, Nat.le_refl _⟩
    · exact h.entered e he
  · intro other hm
    rcases List.mem_cons.mp hm with same | hm
    · obtain rfl : other = state := congrArg Prod.fst same
      exact ⟨t, ahead.congr rfl, Nat.le_refl _⟩
    · obtain ⟨u, hu, size⟩ := h.larger other hm
      exact ⟨u, hu.congr rfl, by omega⟩
  · have room := h.room
    rw [Run.enter_active, List.length_cons]
    omega

end Inside

/-- Visits of the symbols follow the trees, wherever these stand ahead. -/
def Runs (c : Compiled V P) (stream : Stream) (symbols : List Symbol) (ts : List Tree) : Prop :=
  ∀ {levels depth bound : Nat} {lhs : String} {r : Run} {rest : List Token},
    Followed c.first c.follow lhs symbols → c.follow.holds lhs (peek rest) = true →
    r.remaining stream = leavesOf ts ++ rest → c.Inside stream levels bound r →
    sizeOf ts < bound →
    Gives stream r (leavesOf ts) (valuesOf c.evaluator ts)
      (c.visitSymbols stream depth (c.visitState stream levels depth) symbols r)

theorem visitToken_gives {depth : Nat} {t : Token} {rest : List Token}
    (ahead : r.remaining stream = t :: rest) :
    Gives stream r [t] (.ok (c.evaluator.leaf t.text)) (c.visitToken stream depth t.name r) := by
  have next : r.lookahead stream = some t := by
    rw [Run.lookahead_eq, ahead]
    rfl
  rw [visitToken_ahead next]
  refine ⟨rfl, fun _ _ => ⟨?_, rfl, rfl⟩⟩
  have behind := congrArg List.tail ahead
  rw [Run.remaining, List.tail_drop] at behind
  rw [ahead, List.singleton_append]
  exact congrArg _ behind.symm

theorem visitState_gives (wf : c.WellFormed) (ll1 : c.grammar.IsLL1 c.first c.follow)
    {levels depth bound index : Nat} {state : String} {a : Alternative} {ks : List Tree}
    (runs : c.Runs stream a.symbols ks) (ahead : c.Ahead stream r state (.node state index a ks))
    (inside : c.Inside stream levels bound r)
    (small : sizeOf (Tree.node state index a ks) < bound) :
    Gives stream r (leavesOf ks) ((Tree.node state index a ks).value c.evaluator)
      (c.visitState stream levels depth state r) := by
  obtain ⟨levels, rfl⟩ := inside.exists_level
  have free := inside.free wf ll1 ahead small
  obtain ⟨index', a', ks', same, rule, children⟩ := isTree_iff.mp ahead.tree
  obtain ⟨-, rfl, rfl, rfl⟩ := Tree.node.inj same
  obtain ⟨rest, split, follows⟩ := ahead.rest
  have selected := select?_peek wf ll1 rule children follows
  rw [← Tree.leaves, ← split, ← nextTerminal_eq_peek] at selected
  generalize (Tree.node state index a ks).leaves.isEmpty = viaFollow at selected
  have smaller : sizeOf ks < sizeOf (Tree.node state index a ks) := by
    rw [Tree.node.sizeOf_spec]
    omega
  have visited : Gives stream (r.enter stream depth state a viaFollow) (leavesOf ks)
      (valuesOf c.evaluator ks) (c.visitSymbols stream (depth + 1)
        (c.visitState stream levels (depth + 1)) a.symbols
        (r.enter stream depth state a viaFollow)) :=
    runs (followed_of_alternative? wf rule) follows split (inside.enter free ahead small) smaller
  rw [visitState_expand wf free selected rule, Tree.value]
  exact visited.leave (act c.evaluator state a)

theorem runs_of_isForest (wf : c.WellFormed) (ll1 : c.grammar.IsLL1 c.first c.follow)
    {symbols : List Symbol} {ts : List Tree} (h : IsForest c.grammar symbols ts) :
    c.Runs stream symbols ts := by
  induction h with
  | nil =>
      intro levels depth bound lhs r rest _ _ _ _ _
      exact .nil stream r
  | epsilon _ ih =>
      intro levels depth bound lhs r rest followed follows ahead inside small
      exact ih followed follows ahead inside small
  | token t _ ih =>
      intro levels depth bound lhs r rest followed follows ahead inside small
      refine (visitToken_gives ahead).cons fun r' reads => ?_
      have ahead' : r'.remaining stream = leavesOf _ ++ rest :=
        (List.cons.inj (reads.remaining.symm.trans ahead)).2
      refine ih followed follows ahead' (inside.reads reads) ?_
      simp only [List.cons.sizeOf_spec] at small
      omega
  | @state name index a more ks ts rule children forest ihChildren ihMore =>
      intro levels depth bound lhs r rest followed follows ahead inside small
      simp only [List.cons.sizeOf_spec] at small
      have split : r.remaining stream = leavesOf ks ++ (leavesOf ts ++ rest) := by
        simpa only [leavesOf, Tree.leaves, List.append_assoc] using ahead
      have root : c.Ahead stream r name (.node name index a ks) :=
        ⟨.state rule children .nil, _, split, follow_of_followed wf followed forest follows⟩
      refine (visitState_gives wf ll1 ihChildren root inside (by omega)).cons fun r' reads => ?_
      have ahead' : r'.remaining stream = leavesOf ts ++ rest :=
        List.append_cancel_left (reads.remaining.symm.trans split)
      exact ihMore followed.tail follows ahead' (inside.reads reads) (by omega)

theorem visitState_of_tree (wf : c.WellFormed) (ll1 : c.grammar.IsLL1 c.first c.follow)
    (deep : c.grammar.states.length * (stream.tokens.size + 1) ≤ c.options.maxDepth) {t : Tree}
    (tree : IsTree c.grammar Grammar.startName t) (leaves : t.leaves = stream.tokens.toList) :
    Gives stream .initial t.leaves (t.value c.evaluator)
      (c.visitState stream (c.options.maxDepth + 1) 0 Grammar.startName .initial) := by
  obtain ⟨index, a, ks, rfl, rule, children⟩ := isTree_iff.mp tree
  have split : Run.initial.remaining stream = leavesOf ks ++ [] := by
    rw [List.append_nil]
    exact leaves.symm
  exact visitState_gives wf ll1 (runs_of_isForest wf ll1 children) ⟨tree, [], split, follow_start wf⟩
    (.initial deep) (Nat.lt_succ_self _)

/-- Behind all tokens of the stream none is ahead. -/
theorem lookahead_of_reads {r : Run} (h : Reads stream .initial stream.tokens.toList r) :
    r.lookahead stream = none := by
  have split : Run.initial.remaining stream = stream.tokens.toList ++ [] :=
    (List.append_nil _).symm
  have nothing : r.remaining stream = [] := List.append_cancel_left (h.remaining.symm.trans split)
  rw [Run.lookahead_eq, nothing]
  rfl

theorem parseStream_of_tree (wf : c.WellFormed) (ll1 : c.grammar.IsLL1 c.first c.follow)
    (deep : c.grammar.states.length * (stream.tokens.size + 1) ≤ c.options.maxDepth) {t : Tree}
    (tree : IsTree c.grammar Grammar.startName t) (leaves : t.leaves = stream.tokens.toList) :
    (c.parseStream stream).1 = t.value c.evaluator := by
  obtain ⟨value, reads⟩ := visitState_of_tree wf ll1 deep tree leaves
  rw [parseStream]
  generalize c.visitState stream (c.options.maxDepth + 1) 0 Grammar.startName .initial = o
    at value reads
  obtain ⟨result, r⟩ := o
  subst value
  cases hv : t.value c.evaluator with
  | error e => rfl
  | ok v =>
      have atEnd := lookahead_of_reads (leaves ▸ reads v hv)
      simp [Outcome.andThen, atEnd]

/-- Without conflicts, with enough levels and with the end of input required, a parse
decides whether the tokens are derivable from the start state. If so they have one tree,
and the result is its value, or the failure of the first action in it that fails. -/
theorem parse_of_isLL1 {patterns : String → Option Text.Matcher}
    {evaluator : Action.Evaluator V P} {options : Options} {d : Grammar.Declarations}
    (h : ofDeclarations patterns evaluator options d = .ok c)
    (ll1 : c.grammar.IsLL1 c.first c.follow) (required : options.requireEnd = true)
    {input : String} (ht : c.tokenize input = .ok stream)
    (deep : c.grammar.productions.length * (stream.tokens.size + 1) ≤ options.maxDepth) :
    (c.grammar.Derives [.state Grammar.startName] (kinds stream.tokens.toList) →
      ∃ t, IsTree c.grammar Grammar.startName t ∧ t.leaves = stream.tokens.toList ∧
        (∀ u, IsTree c.grammar Grammar.startName u → u.leaves = stream.tokens.toList → u = t) ∧
        c.parse input = t.value evaluator ∧
        ∀ e, c.parse input = .error e → ∃ state cause, e = .action state cause) ∧
    (¬c.grammar.Derives [.state Grammar.startName] (kinds stream.tokens.toList) →
      ∀ v, c.parse input ≠ .ok v) := by
  obtain ⟨wf, rfl, rfl, -⟩ := ofDeclarations_ok h
  have parsed : c.parse input = (c.parseStream stream).1 := by
    rw [parse, ht]
  refine ⟨fun derivable => ?_, fun underivable v hv => ?_⟩
  · obtain ⟨t, tree, leaves⟩ := (derives_iff_exists_tree wf.grammar).mp derivable
    have levels : c.grammar.states.length * (stream.tokens.size + 1) ≤ c.options.maxDepth := by
      rw [Grammar.states, List.length_map]
      exact deep
    have value := parsed.trans (parseStream_of_tree wf ll1 levels tree leaves)
    refine ⟨t, tree, leaves, fun u hu hl => ?_, value, fun e he => ?_⟩
    · refine tree_unique wf ll1 hu tree (follow_start wf) (follow_start wf) ?_
      rw [leaves, hl]
    · exact Tree.value_error (value.symm.trans he)
  · have run : c.parseStream stream = (.ok v, (c.parseStream stream).2) :=
      Prod.ext (parsed.symm.trans hv) rfl
    obtain ⟨t, tree, -, leaves, -, whole⟩ := parseStream_sound wf run
    refine underivable ((derives_iff_exists_tree wf.grammar).mpr ⟨t, tree, ?_⟩)
    rw [leaves, whole required, ← Array.length_toList, List.take_length]

theorem parse_of_isLL1_repetition :
    ∃ c, ofDeclarations Pattern.matcher? Action.outline .standard repetition = .ok c ∧
      c.grammar.IsLL1 c.first c.follow ∧
      (∃ stream t, c.tokenize "aab" = .ok stream ∧ stream.tokens.size = 3 ∧
        c.grammar.Derives [.state Grammar.startName] (kinds stream.tokens.toList) ∧
        IsTree c.grammar Grammar.startName t ∧ t.leaves = stream.tokens.toList ∧
        (∀ u, IsTree c.grammar Grammar.startName u → u.leaves = stream.tokens.toList → u = t) ∧
        c.parse "aab" = t.value Action.outline) ∧
      ∃ stream, c.tokenize "aa" = .ok stream ∧ stream.tokens.size = 2 ∧
        ¬c.grammar.Derives [.state Grammar.startName] (kinds stream.tokens.toList) := by
  obtain ⟨c, compiled, ll1, states, tokens, tokens', parsed, failed⟩ :
      ∃ c, ofDeclarations Pattern.matcher? Action.outline .standard repetition = .ok c ∧
        c.grammar.IsLL1 c.first c.follow ∧ c.grammar.productions.length = 2 ∧
        c.tokenize "aab" = .ok ⟨#[⟨"a", "a", 0⟩, ⟨"a", "a", 1⟩, ⟨"b", "b", 2⟩], 3⟩ ∧
        c.tokenize "aa" = .ok ⟨#[⟨"a", "a", 0⟩, ⟨"a", "a", 1⟩], 2⟩ ∧
        c.parse "aab" = .ok "x(y(\"a\",y(\"a\",z())),\"b\")" ∧
        c.parse "aa" = .error (.unexpected 2 2 none (.names ["a", "b"])) :=
    ⟨_, rfl, ⟨by decide +kernel, by decide +kernel, by decide +kernel⟩, rfl,
      by with_unfolding_all rfl, by with_unfolding_all rfl, by with_unfolding_all rfl,
      by with_unfolding_all rfl⟩
  have derivable := parse_of_isLL1 compiled ll1 rfl tokens (by rw [states]; decide)
  have underivable := parse_of_isLL1 compiled ll1 rfl tokens' (by rw [states]; decide)
  have derives := Classical.not_not.mp fun no => derivable.2 no _ parsed
  obtain ⟨t, tree, leaves, unique, value, -⟩ := derivable.1 derives
  refine ⟨c, compiled, ll1, ⟨_, t, tokens, rfl, derives, tree, leaves, unique, value⟩,
    _, tokens', rfl, ?_⟩
  intro derives
  obtain ⟨-, -, -, -, -, action⟩ := underivable.1 derives
  obtain ⟨state, cause, he⟩ := action _ failed
  cases he

end Compiled
end PredictiveParsing.Parsing
