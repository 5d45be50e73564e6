import PredictiveParsing.Pattern.Search
import PredictiveParsing.Proofs.Parsing.Listing
import PredictiveParsing.Proofs.Parsing.Tokens

/-!
A parse that succeeds has a derivation tree. The tree is rebuilt from the visits: what
a visit reads is what the leaves of its tree spell, its result is the value of the tree, and
its steps list the tree. This needs nothing of the grammar but that it compiles.
-/
namespace PredictiveParsing.Parsing

open Grammar (Alternative Symbol Terminal)
open PredictiveParsing.Parsing.Tree (leavesOf valuesOf)

variable {V P : Type}

/-- Between two runs of a stream these tokens are read, and the states that are being
expanded are the same. -/
structure Reads (stream : Stream) (r : Run) (tokens : List Token) (r' : Run) : Prop where
  remaining : r.remaining stream = tokens ++ r'.remaining stream
  cursor : r'.cursor = r.cursor + tokens.length
  active : r'.active = r.active

theorem Reads.refl (stream : Stream) (r : Run) : Reads stream r [] r :=
  ⟨rfl, rfl, rfl⟩

theorem Reads.trans {stream : Stream} {r r' r'' : Run} {us vs : List Token}
    (h : Reads stream r us r') (k : Reads stream r' vs r'') : Reads stream r (us ++ vs) r'' := by
  refine ⟨?_, ?_, k.active.trans h.active⟩
  · rw [h.remaining, k.remaining, List.append_assoc]
  · rw [k.cursor, h.cursor, List.length_append, Nat.add_assoc]

theorem Reads.within {stream : Stream} {r r' : Run} {tokens : List Token}
    (h : Reads stream r tokens r') (within : r.cursor ≤ stream.tokens.size) :
    r'.cursor ≤ stream.tokens.size := by
  have ahead := congrArg List.length h.remaining
  simp only [Run.remaining, List.length_append, List.length_drop, Array.length_toList] at ahead
  have forth := h.cursor
  omega

/-- Between two runs of a stream these tokens are passed. -/
structure Passes (stream : Stream) (r : Run) (tokens : List Token) (r' : Run) : Prop where
  remaining : r.remaining stream = tokens ++ r'.remaining stream
  cursor : r'.cursor = r.cursor + tokens.length

namespace Passes

variable {stream : Stream} {r r' r'' : Run} {us vs : List Token}

theorem of_cursor_eq (h : r'.cursor = r.cursor) : Passes stream r [] r' :=
  ⟨(Run.remaining_congr h).symm, h⟩

theorem trans (h : Passes stream r us r') (k : Passes stream r' vs r'') :
    Passes stream r (us ++ vs) r'' := by
  refine ⟨?_, ?_⟩
  · rw [h.remaining, k.remaining, List.append_assoc]
  · rw [k.cursor, h.cursor, List.length_append, Nat.add_assoc]

theorem eq_take (h : Passes stream .initial us r) :
    us = stream.tokens.toList.take r.cursor ∧ r.cursor ≤ stream.tokens.size := by
  have all : stream.tokens.toList = us ++ r.remaining stream := h.remaining
  have length : r.cursor = us.length := h.cursor.trans (Nat.zero_add _)
  constructor
  · rw [all, List.take_left' length.symm]
  · rw [← Array.length_toList, all, List.length_append]
    omega

end Passes

theorem Reads.passes {stream : Stream} {r r' : Run} {tokens : List Token}
    (h : Reads stream r tokens r') : Passes stream r tokens r' :=
  ⟨h.remaining, h.cursor⟩

/-- What is read inside an expansion is read by the visit. -/
theorem Reads.leave {stream : Stream} {r after : Run} {depth : Nat} {state : String}
    {a : Alternative} {viaFollow : Bool} {tokens : List Token}
    (h : Reads stream (r.enter stream depth state a viaFollow) tokens after) :
    Reads stream r tokens (after.leave state r.cursor) := by
  refine ⟨h.remaining, h.cursor, ?_⟩
  rw [Run.leave, h.active, Run.enter_active]
  exact List.erase_cons_head (state, r.cursor) r.active

namespace Compiled

variable {c : Compiled V P} {stream : Stream}

/-- The symbols are visited as these trees: the trees derive them and have the values, the
leaves are read, and the steps list the trees. -/
structure Listed (c : Compiled V P) (stream : Stream) (depth : Nat) (symbols : List Symbol)
    (r : Run) (ts : List Tree) (vs : List V) (r' : Run) : Prop where
  forest : IsForest c.grammar symbols ts
  values : valuesOf c.evaluator ts = .ok vs
  reads : Reads stream r (leavesOf ts) r'
  steps : r'.steps.toList = r.steps.toList ++ c.listingOf stream depth r.cursor ts

namespace Listed

variable {depth : Nat} {r r₁ r' : Run}

theorem nil (c : Compiled V P) (stream : Stream) (depth : Nat) (r : Run) :
    c.Listed stream depth [] r [] [] r :=
  ⟨.nil, rfl, .refl stream r, (List.append_nil _).symm⟩

theorem epsilon {symbols : List Symbol} {ts : List Tree} {vs : List V}
    (h : c.Listed stream depth symbols r ts vs r') :
    c.Listed stream depth (.epsilon :: symbols) r ts vs r' :=
  ⟨.epsilon h.forest, h.values, h.reads, h.steps⟩

theorem append {u v : List Symbol} {ts us : List Tree} {vs ws : List V}
    (h : c.Listed stream depth u r ts vs r₁) (k : c.Listed stream depth v r₁ us ws r') :
    c.Listed stream depth (u ++ v) r (ts ++ us) (vs ++ ws) r' := by
  refine ⟨h.forest.append k.forest, ?_, ?_, ?_⟩
  · rw [Tree.valuesOf_append, h.values, k.values]
    rfl
  · rw [Tree.leavesOf_append]
    exact h.reads.trans k.reads
  · rw [k.steps, h.steps, h.reads.cursor, listingOf_append, List.append_assoc]

/-- The visit of a state is that of one tree. -/
theorem tree {state : String} {t : Tree} {v : V}
    (h : c.Listed stream depth [.state state] r [t] [v] r') :
    IsTree c.grammar state t ∧ t.value c.evaluator = .ok v ∧ Reads stream r t.leaves r' := by
  have reads := h.reads
  rw [leavesOf, leavesOf, List.append_nil] at reads
  exact ⟨h.forest, Tree.valuesOf_singleton.mp h.values, reads⟩

end Listed

theorem visitToken_listed {depth : Nat} {name : String} {r r' : Run} {v : V}
    (h : c.visitToken stream depth name r = (.ok v, r')) :
    ∃ t, c.Listed stream depth [.token name] r [t] [v] r' := by
  obtain ⟨t, ahead, rfl, rfl, rfl⟩ := visitToken_eq_ok h
  refine ⟨.leaf t, .token t .nil, rfl, ⟨?_, rfl, rfl⟩, Run.take_steps ..⟩
  have here : stream.tokens.toList[r.cursor]? = some t := by
    rw [Array.getElem?_toList]
    exact ahead
  obtain ⟨inside, rfl⟩ := List.getElem?_eq_some_iff.mp here
  exact List.drop_eq_getElem_cons inside

/-- Visits of symbols are listed if those of their states are. -/
theorem visitSymbols_listed {depth : Nat} {visit : String → Run → Outcome V}
    (inside : ∀ {name r v r'}, visit name r = (.ok v, r') →
      ∃ t, c.Listed stream depth [.state name] r [t] [v] r')
    {symbols : List Symbol} {r r' : Run} {vs : List V}
    (h : c.visitSymbols stream depth visit symbols r = (.ok vs, r')) :
    ∃ ts, c.Listed stream depth symbols r ts vs r' := by
  induction symbols generalizing r vs with
  | nil =>
      cases h
      exact ⟨[], .nil c stream depth _⟩
  | cons y more ih =>
      cases y with
      | epsilon =>
          obtain ⟨ts, rest⟩ := ih h
          exact ⟨ts, rest.epsilon⟩
      | token name =>
          obtain ⟨v, r₁, hv, h⟩ := Outcome.andThen_eq_ok h
          obtain ⟨us, r₂, hus, h⟩ := Outcome.andThen_eq_ok h
          cases h
          obtain ⟨t, first⟩ := visitToken_listed hv
          obtain ⟨ts, rest⟩ := ih hus
          exact ⟨t :: ts, first.append rest⟩
      | state name =>
          obtain ⟨v, r₁, hv, h⟩ := Outcome.andThen_eq_ok h
          obtain ⟨us, r₂, hus, h⟩ := Outcome.andThen_eq_ok h
          cases h
          obtain ⟨t, first⟩ := inside hv
          obtain ⟨ts, rest⟩ := ih hus
          exact ⟨t :: ts, first.append rest⟩

theorem visitState_listed (wf : c.WellFormed) {levels depth : Nat} {state : String}
    {r r' : Run} {v : V} (h : c.visitState stream levels depth state r = (.ok v, r')) :
    ∃ t, c.Listed stream depth [.state state] r [t] [v] r' := by
  induction levels generalizing depth state r r' v with
  | zero => cases h
  | succ levels ih =>
      rcases visitState_cases wf stream levels depth state r with
        busy | ⟨-, none⟩ | ⟨index, viaFollow, a, selected, ha, expand⟩
      · rw [busy] at h
        cases h
      · rw [none, unexpected] at h
        cases h
      · rw [expand] at h
        obtain ⟨vs, after, hvs, h⟩ := Outcome.andThen_eq_ok h
        obtain ⟨ks, children⟩ := visitSymbols_listed ih hvs
        obtain ⟨hact, rfl⟩ := Prod.mk.inj h
        refine ⟨.node state index a ks, .state ha children.forest .nil, ?_, ?_, ?_⟩
        · rw [Tree.valuesOf_singleton, Tree.value, children.values]
          exact hact
        · rw [leavesOf, leavesOf, List.append_nil]
          exact children.reads.leave
        · rw [listingOf_singleton, ← enter_listing selected]
          exact children.steps

/-- Visits of symbols are sound, as those of their states are. -/
theorem visitSymbols_sound (wf : c.WellFormed) {levels depth : Nat} {symbols : List Symbol}
    {r r' : Run} {vs : List V}
    (h : c.visitSymbols stream depth (c.visitState stream levels depth) symbols r =
      (.ok vs, r')) :
    ∃ ts, IsForest c.grammar symbols ts ∧ valuesOf c.evaluator ts = .ok vs ∧
      Reads stream r (leavesOf ts) r' := by
  obtain ⟨ts, listed⟩ := visitSymbols_listed (visitState_listed wf) h
  exact ⟨ts, listed.forest, listed.values, listed.reads⟩

theorem visitState_sound (wf : c.WellFormed) {levels depth : Nat} {state : String}
    {r r' : Run} {v : V} (h : c.visitState stream levels depth state r = (.ok v, r')) :
    ∃ t, IsTree c.grammar state t ∧ t.value c.evaluator = .ok v ∧
      Reads stream r t.leaves r' := by
  obtain ⟨t, listed⟩ := visitState_listed wf h
  exact ⟨t, listed.tree⟩

/-- A stream that is parsed has a tree over the tokens in front of the position at
which the parse ends; that is the end of the stream if it is required. -/
theorem parseStream_sound (wf : c.WellFormed) {r : Run} {v : V}
    (h : c.parseStream stream = (.ok v, r)) :
    ∃ t, IsTree c.grammar Grammar.startName t ∧ t.value c.evaluator = .ok v ∧
      t.leaves = stream.tokens.toList.take r.cursor ∧ r.cursor ≤ stream.tokens.size ∧
      (c.options.requireEnd = true → r.cursor = stream.tokens.size) := by
  obtain ⟨read, atEnd⟩ := parseStream_ok h
  obtain ⟨t, tree, value, reads⟩ := visitState_sound wf read
  obtain ⟨leaves, within⟩ := reads.passes.eq_take
  refine ⟨t, tree, value, leaves, within, fun required => ?_⟩
  exact Nat.le_antisymm within (Array.getElem?_eq_none_iff.mp (atEnd required))

/-- The value of an input is that of a derivation tree of the start state. Its leaves
are the tokens in front of the position at which the parse ends, which are all of them,
and spell the input, where the end of input is required. The grammar may be ambiguous
and the options are any. -/
theorem exists_tree_of_parse {patterns : String → Option Text.Matcher}
    {evaluator : Action.Evaluator V P} {options : Options} {d : Grammar.Declarations}
    (h : ofDeclarations patterns evaluator options d = .ok c) {input : String} {v : V}
    (hp : c.parse input = .ok v) :
    ∃ stream r t, c.tokenize input = .ok stream ∧ c.parseStream stream = (.ok v, r) ∧
      IsTree c.grammar Grammar.startName t ∧ r.cursor ≤ stream.tokens.size ∧
      t.leaves = stream.tokens.toList.take r.cursor ∧ t.value evaluator = .ok v ∧
      (options.requireEnd = true → r.cursor = stream.tokens.size ∧
        String.join (t.leaves.map (·.text)) = input) := by
  obtain ⟨wf, rfl, rfl, -⟩ := ofDeclarations_ok h
  rw [parse] at hp
  cases ht : c.tokenize input with
  | error e =>
      rw [ht] at hp
      cases hp
  | ok stream =>
      simp only [ht] at hp
      have run : c.parseStream stream = (.ok v, (c.parseStream stream).2) := Prod.ext hp rfl
      obtain ⟨t, tree, value, leaves, hle, hend⟩ := parseStream_sound wf run
      refine ⟨stream, _, t, rfl, run, tree, hle, leaves, value, fun required => ?_⟩
      have whole := hend required
      refine ⟨whole, ?_⟩
      have all : t.leaves = stream.tokens.toList := by
        rw [leaves, whole, ← Array.length_toList, List.take_length]
      rw [all]
      exact join_texts_of_tokenize ht

/-- Any number of one token in front of another one, with an epsilon between them. -/
def repetition : Grammar.Declarations where
  tokens := [⟨"a", "a"⟩, ⟨"b", "b"⟩]
  rules := [.ofWords "s" "A EPS b" "x", .ofWords "A" "a A" "y", .ofWords "A" "EPS" "z"]

theorem exists_tree_of_parse_repetition :
    ∃ c, ofDeclarations Pattern.matcher? Action.outline .standard repetition = .ok c ∧
      c.parse "aab" = .ok "x(y(\"a\",y(\"a\",z())),\"b\")" ∧
      ∃ stream t, c.tokenize "aab" = .ok stream ∧ IsTree c.grammar Grammar.startName t ∧
        t.leaves = stream.tokens.toList ∧
        t.value Action.outline = .ok "x(y(\"a\",y(\"a\",z())),\"b\")" := by
  obtain ⟨c, compiled, parsed⟩ :
      ∃ c, ofDeclarations Pattern.matcher? Action.outline .standard repetition = .ok c ∧
        c.parse "aab" = .ok "x(y(\"a\",y(\"a\",z())),\"b\")" :=
    ⟨_, rfl, by with_unfolding_all rfl⟩
  obtain ⟨stream, r, t, tokens, -, tree, -, leaves, value, hend⟩ :=
    exists_tree_of_parse compiled parsed
  refine ⟨c, compiled, parsed, stream, t, tokens, tree, ?_, value⟩
  rw [leaves, (hend rfl).1, ← Array.length_toList, List.take_length]

end Compiled
end PredictiveParsing.Parsing
