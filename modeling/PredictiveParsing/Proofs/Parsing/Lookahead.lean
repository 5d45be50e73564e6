import PredictiveParsing.Proofs.Grammar.LL1
import PredictiveParsing.Proofs.Parsing.Visit

/-!
One terminal of lookahead decides. Where a tree of a state stands in front of what can
follow the state, the terminal ahead selects the rule at its root, so that the tokens
ahead can be read as trees in one way only.
-/
namespace PredictiveParsing.Parsing

open Grammar (Alternative Symbol Terminal Followed firstOfSequence)
open PredictiveParsing.Parsing.Tree (leavesOf)

variable {V P : Type}

/-- The terminal in front of tokens. -/
def peek : List Token → Terminal
  | [] => .endOfInput
  | t :: _ => .token t.name

section First

variable {g : Grammar} {symbols : List Symbol} {ts : List Tree}

theorem IsForest.mem_first_of_cons (wf : g.WellFormed) (h : IsForest g symbols ts) {t : Token}
    {more : List Token} (hl : leavesOf ts = t :: more) :
    .token t.name ∈ (firstOfSequence g.firstSets symbols).1 := by
  have derives := h.derives
  rw [hl] at derives
  exact (Grammar.mem_first_iff wf).mpr ⟨kinds more, derives⟩

theorem IsForest.mem_first_of_nil (wf : g.WellFormed) (h : IsForest g symbols ts)
    (hl : leavesOf ts = []) : .epsilon ∈ (firstOfSequence g.firstSets symbols).1 := by
  have derives := h.derives
  rw [hl] at derives
  exact (Grammar.mem_first_iff wf).mpr derives

end First

namespace Compiled

variable {c : Compiled V P} {stream : Stream}

theorem nextTerminal_eq_peek (stream : Stream) (r : Run) :
    nextTerminal stream r = peek (r.remaining stream) := by
  rw [nextTerminal, Run.lookahead_eq]
  cases r.remaining stream <;> rfl

theorem follow_start (wf : c.WellFormed) :
    c.follow.holds Grammar.startName (peek []) = true := by
  rw [wf.follow_eq]
  exact (Grammar.followClosed_followSets wf.grammar).start

/-- What can be ahead behind a forest can be ahead behind the state in front of it. -/
theorem follow_of_followed (wf : c.WellFormed) {lhs name : String} {more : List Symbol}
    {ts : List Tree} (followed : Followed c.first c.follow lhs (.state name :: more))
    (forest : IsForest c.grammar more ts) {rest : List Token}
    (follows : c.follow.holds lhs (peek rest) = true) :
    c.follow.holds name (peek (leavesOf ts ++ rest)) = true := by
  obtain ⟨begins, inherited, -⟩ := followed
  rw [wf.first_eq] at begins inherited
  cases hl : leavesOf ts with
  | nil => exact inherited (forest.mem_first_of_nil wf.grammar hl) _ follows
  | cons t _ => exact begins _ (forest.mem_first_of_cons wf.grammar hl) nofun

/-- The terminal ahead selects the rule whose symbols the trees in front derive. -/
theorem select?_peek (wf : c.WellFormed) (ll1 : c.grammar.IsLL1 c.first c.follow)
    {state : String} {index : Nat} {a : Alternative} {ks : List Tree} {rest : List Token}
    (ha : c.grammar.alternative? state index = some a) (forest : IsForest c.grammar a.symbols ks)
    (follows : c.follow.holds state (peek rest) = true) :
    c.select? state (peek (leavesOf ks ++ rest)) = some (index, (leavesOf ks).isEmpty) := by
  cases hl : leavesOf ks with
  | cons t more =>
      have begins := wf.first_eq ▸ forest.mem_first_of_cons wf.grammar hl
      obtain ⟨i, hi⟩ := exists_select?_table wf (holds_of_alternative? wf ha begins)
      obtain ⟨token, b, ht, hb, hm⟩ := of_select?_table wf hi
      cases ht
      rw [ll1.index_eq ha hb begins hm]
      exact hi
  | nil =>
      have nullable := wf.first_eq ▸ forest.mem_first_of_nil wf.grammar hl
      have vanishes := holds_of_alternative? wf ha nullable
      have declared := (Grammar.hasRule_of_alternative? ha).state_mem
      obtain ⟨i, hi⟩ := exists_select?_follow wf vanishes follows fun token ht => by
        rw [ht] at follows ⊢
        exact ll1.not_first_of_follow declared vanishes follows
      obtain ⟨⟨b, hb, hm⟩, -⟩ := of_select?_follow wf hi
      rw [ll1.index_eq ha hb nullable hm]
      exact hi

/-- Two readings of the same tokens are the same as soon as what they leave over can
follow them. -/
theorem forest_unique (wf : c.WellFormed) (ll1 : c.grammar.IsLL1 c.first c.follow)
    {lhs : String} {symbols : List Symbol} {ts us : List Tree} {rest rest' : List Token}
    (h : IsForest c.grammar symbols ts) (k : IsForest c.grammar symbols us)
    (followed : Followed c.first c.follow lhs symbols)
    (follows : c.follow.holds lhs (peek rest) = true)
    (follows' : c.follow.holds lhs (peek rest') = true)
    (same : leavesOf ts ++ rest = leavesOf us ++ rest') : ts = us ∧ rest = rest' := by
  induction h generalizing lhs us rest rest' with
  | nil =>
      cases k
      exact ⟨rfl, same⟩
  | epsilon _ ih =>
      cases k with
      | epsilon more => exact ih more followed follows follows' same
  | token t _ ih =>
      generalize t.name = name at k
      cases k with
      | token u more =>
          obtain ⟨rfl, others⟩ := List.cons.inj same
          obtain ⟨rfl, hr⟩ := ih more followed follows follows' others
          exact ⟨rfl, hr⟩
  | @state name index a _ ks ts rule children more ihChildren ihMore =>
      cases k with
      | @state _ j b _ ls us rule' children' more' =>
          have behind := follow_of_followed wf followed more follows
          have behind' := follow_of_followed wf followed more' follows'
          have split : leavesOf ks ++ (leavesOf ts ++ rest) =
              leavesOf ls ++ (leavesOf us ++ rest') := by
            simpa only [leavesOf, Tree.leaves, List.append_assoc] using same
          -- both roots are selected by the terminal ahead
          have selected := select?_peek wf ll1 rule children behind
          rw [split, select?_peek wf ll1 rule' children' behind'] at selected
          obtain ⟨rfl, -⟩ := Prod.mk.inj (Option.some.inj selected)
          obtain rfl : a = b := Option.some.inj (rule.symm.trans rule')
          obtain ⟨rfl, others⟩ := ihChildren children' (followed_of_alternative? wf rule)
            behind behind' split
          obtain ⟨rfl, hr⟩ := ihMore more' followed.tail follows follows' others
          exact ⟨rfl, hr⟩

theorem tree_unique (wf : c.WellFormed) (ll1 : c.grammar.IsLL1 c.first c.follow)
    {state : String} {t u : Tree} {rest rest' : List Token} (ht : IsTree c.grammar state t)
    (hu : IsTree c.grammar state u) (follows : c.follow.holds state (peek rest) = true)
    (follows' : c.follow.holds state (peek rest') = true)
    (same : t.leaves ++ rest = u.leaves ++ rest') : t = u := by
  obtain ⟨trees, -⟩ := forest_unique wf ll1 ht hu (Grammar.followed_singleton _ _ state)
    follows follows' (by simpa [leavesOf] using same)
  exact (List.cons.inj trees).1

end Compiled
end PredictiveParsing.Parsing
