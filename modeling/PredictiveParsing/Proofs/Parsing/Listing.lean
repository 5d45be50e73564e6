import PredictiveParsing.Proofs.Parsing.Visit

/-!
Trees as listings of steps, each node in front of what is below it. The depth is that of the
node below the root, and the position is how many tokens are in front of it.
-/
namespace PredictiveParsing.Parsing

open Grammar (Terminal)
open PredictiveParsing.Parsing.Tree (leavesOf)

variable {V P : Type}

/-- The terminal at a position of the stream. -/
def Stream.terminalAt (stream : Stream) (position : Nat) : Terminal :=
  match stream.tokens[position]? with
  | some t => .token t.name
  | none => .endOfInput

namespace Compiled

mutual

/-- The steps of a tree. That of a state has its rule, and whether the rule is selected because
the terminal at the position follows the state. -/
def listing (c : Compiled V P) (stream : Stream) (depth position : Nat) : Tree → List Step
  | .leaf t => [⟨depth, t.name, position, stream.tokens[position]?, .take t.text⟩]
  | .node state index a children =>
    ⟨depth, state, position, stream.tokens[position]?,
      .expand a (c.select? state (stream.terminalAt position) == some (index, true))⟩ ::
      c.listingOf stream (depth + 1) position children

/-- The steps of trees one after another. -/
def listingOf (c : Compiled V P) (stream : Stream) (depth position : Nat) :
    List Tree → List Step
  | [] => []
  | t :: ts =>
    c.listing stream depth position t ++
      c.listingOf stream depth (position + t.leaves.length) ts

end

variable {c : Compiled V P} {stream : Stream}

@[simp] theorem listingOf_singleton (depth position : Nat) (t : Tree) :
    c.listingOf stream depth position [t] = c.listing stream depth position t := by
  rw [listingOf, listingOf, List.append_nil]

theorem listingOf_append (depth position : Nat) (ts us : List Tree) :
    c.listingOf stream depth position (ts ++ us) = c.listingOf stream depth position ts ++
      c.listingOf stream depth (position + (leavesOf ts).length) us := by
  induction ts generalizing position with
  | nil => rfl
  | cons t ts ih =>
      simp only [List.cons_append, listingOf, ih, leavesOf, List.length_append,
        List.append_assoc, Nat.add_assoc]

/-- What is recorded where a state is expanded is its own line of the listing. -/
theorem enter_listing {depth index : Nat} {state : String} {a : Grammar.Alternative}
    {viaFollow : Bool} {r : Run}
    (selected : c.select? state (nextTerminal stream r) = some (index, viaFollow))
    (children : List Tree) :
    (r.enter stream depth state a viaFollow).steps.toList ++
        c.listingOf stream (depth + 1) r.cursor children =
      r.steps.toList ++ c.listing stream depth r.cursor (.node state index a children) := by
  have flag : (c.select? state (stream.terminalAt r.cursor) == some (index, true)) =
      viaFollow := by
    change (c.select? state (nextTerminal stream r) == some (index, true)) = viaFollow
    rw [selected]
    cases viaFollow <;> simp
  rw [Run.enter_steps, listing, flag, List.append_assoc]
  rfl

end Compiled
end PredictiveParsing.Parsing
