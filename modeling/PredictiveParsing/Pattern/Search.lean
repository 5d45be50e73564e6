import PredictiveParsing.Pattern.Program
import PredictiveParsing.Pattern.Reader
import PredictiveParsing.Text.Matcher

/-!
Searching a text for a pattern. The search finds the match that starts first,
and among those the one that the pattern prefers, which need not be the longest.
All threads advance together through the text, in the order of preference.
-/
namespace PredictiveParsing.Pattern

open Text (Span Matcher)

/-- A place in the program, and where in the text the match would start. -/
structure Thread where
  place : Nat
  start : Nat

/-- The threads at a position in the order of preference, the latest first, and for
each place of the program the round in which a thread was last at it. -/
structure Frontier where
  visited : Array Nat
  threads : List Thread

namespace Frontier

/-- No threads in a program of this size. Rounds count from one. -/
def none (size : Nat) : Frontier :=
  ⟨Array.replicate size 0, []⟩

/-- Follows forks and looks from the places on the stack to the instructions that
take a character or accept. Each step visits a place or drops one, so `count`
steps suffice for twice the places and one more. -/
def follow (code : Code) (before after : Option Char) (round start : Nat) :
    Nat → List Nat → Frontier → Frontier
  | 0, _, f => f
  | _ + 1, [], f => f
  | count + 1, place :: stack, ⟨visited, threads⟩ =>
    if visited.getD place round = round then
      follow code before after round start count stack ⟨visited, threads⟩
    else
      let visited := visited.setIfInBounds place round
      match code[place]? with
      | some (.fork a b) =>
        follow code before after round start count (a :: b :: stack) ⟨visited, threads⟩
      | some (.look l next) =>
        let stack := if l.holds before after then next :: stack else stack
        follow code before after round start count stack ⟨visited, threads⟩
      | _ =>
        follow code before after round start count stack ⟨visited, ⟨place, start⟩ :: threads⟩

/-- Adds the threads that begin at a place. -/
def add (f : Frontier) (code : Code) (before after : Option Char) (round place start : Nat) :
    Frontier :=
  follow code before after round start (2 * code.size + 1) [place] f

/-- Lets the threads take a character, from the preferred one on. A thread that
accepts ends all behind it. -/
def advance (code : Code) (c : Char) (after : Option Char) (round position : Nat) :
    List Thread → Frontier → Option Span → Frontier × Option Span
  | [], next, best => (next, best)
  | t :: threads, next, best =>
    match code[t.place]? with
    | some .accept => (next, some ⟨t.start, position⟩)
    | some (.char s place) =>
      let next := if s.contains c then next.add code (some c) after round place t.start else next
      advance code c after round position threads next best
    | _ => advance code c after round position threads next best

/-- The match of the preferred thread that accepts at the end of the text. -/
def accepted (code : Code) (position : Nat) (threads : List Thread) : Option Span :=
  (threads.find? fun t => code[t.place]? matches some .accept).map fun t => ⟨t.start, position⟩

end Frontier

/-- Searches the rest of a text. As long as there is no match a new thread starts
at every position, behind those that started before it. -/
def Program.search (p : Program) (round : Nat) :
    Option Char → List Char → Nat → Frontier → Option Span → Option Span
  | before, rest, position, frontier, best =>
    let ⟨visited, threads⟩ :=
      if best.isNone then frontier.add p.code before rest.head? round p.entry position
      else frontier
    match rest with
    | [] => (Frontier.accepted p.code position threads.reverse).or best
    | c :: rest =>
      let (next, best) :=
        Frontier.advance p.code c rest.head? (round + 1) position threads.reverse ⟨visited, []⟩ best
      if next.threads.isEmpty && best.isSome then best
      else p.search (round + 1) (some c) rest (position + 1) next best

/-- Searches a text from a position on. -/
def Program.matcher (p : Program) : Matcher := fun text position =>
  let before := if position = 0 then none else text[position - 1]?
  p.search 1 before (text.drop position) position (.none p.code.size) none

/-- The matcher of a pattern given as text; `none` if the pattern is malformed. -/
def matcher? (text : String) : Option Matcher :=
  (Node.ofText? text).map fun node => (Program.ofNode node).matcher

end PredictiveParsing.Pattern
