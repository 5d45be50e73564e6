import Std.Data.HashMap
import PredictiveParsing.Pattern.ByteRange
import PredictiveParsing.Pattern.Node
import PredictiveParsing.Text.Bytes

/-!
The size of a pattern, as the memory that an automaton for it takes. The automaton
reads the bytes of characters in UTF-8, and there is one that reads forward and
one that reads backward. A repetition that counts has a copy of its body for each
round, so short patterns can be large; patterns beyond a limit are refused.
-/
namespace PredictiveParsing.Pattern

/-- The part of an automaton that is built so far: the number of its states, the
bytes they take, and whether its last state is a fork, which needs room for each
way that leaves it. -/
structure Footprint where
  states : Nat
  bytes : Nat
  forks : Bool

namespace Footprint

/-- How many bytes an automaton may take. -/
def limit : Nat := 10485760

/-- The automaton without states. -/
def initial : Footprint := ⟨0, 0, false⟩

/-- Whether the automaton is too large already. -/
def exceeds (f : Footprint) : Bool :=
  limit < f.bytes

/-- Adds states one after the other. -/
def chain (f : Footprint) (length : Nat) : Footprint :=
  ⟨f.states + length, f.bytes + 32 * length, false⟩

/-- Adds a state. -/
def state (f : Footprint) : Footprint :=
  f.chain 1

/-- Makes room in some state. -/
def reserve (f : Footprint) (bytes : Nat) : Footprint :=
  { f with bytes := f.bytes + bytes }

/-- Adds a state that tests a byte for ranges, each of which has its way on. -/
def test (f : Footprint) (ranges : Nat) : Footprint :=
  f.state.reserve (8 * ranges)

/-- Adds a fork with this many ways. -/
def fork (f : Footprint) (ways : Nat) : Footprint :=
  f.state.reserve (4 * ways)

/-- Leads the last state to another one. -/
def link (f : Footprint) : Footprint :=
  if f.forks then { f.reserve 4 with forks := false } else f

/-- Copies of a body one after the other, as far as the limit allows. -/
def copies (body : Footprint → Footprint) : Nat → Footprint → Footprint
  | 0, f => f
  | n + 1, f => if f.exceeds then f else copies body n (body f.link)

/-- Copies of a body each of which may be the last. -/
def optional (body : Footprint → Footprint) : Nat → Footprint → Footprint
  | 0, f => f
  | n + 1, f => if f.exceeds then f else optional body n (body (f.link.fork 2))

/-- A fork that leads back to the body before it, and on. -/
def loop (f : Footprint) : Footprint :=
  { f.link.fork 1 with forks := true }

/-- Rounds of a body, which is sure to take a character if `takesSome` holds. Unless
it is, a repetition without bounds has a fork in front of the first round too. -/
def rounds (body : Footprint → Footprint) (takesSome : Bool) (least : Nat) (most : Option Nat)
    (f : Footprint) : Footprint :=
  match least, most with
  | 0, some 1 => (body (f.fork 2)).link.state
  | 0, none =>
    if takesSome then { (body (f.fork 1)).link with forks := true }
    else (((body f).link.fork 2).fork 2).state
  | n + 1, none => (copies body (n + 1) f).loop
  | n, some m =>
    let needed := if n = 0 then f.state else copies body n f
    if m ≤ n then needed else (optional body (m - n) needed.link.state).link

/-- The hash of numbers. -/
def hash (numbers : List Nat) : UInt64 :=
  numbers.foldl (fun h n => (h ^^^ n.toUInt64) * 1099511628211) 14695981039346656037

/-- A state under construction: the byte ranges with the states they lead to, the
last one first, and the range of which the state is not built yet. -/
structure Growing where
  edges : List (ByteRange × Nat)
  last : Option ByteRange

/-- All edges of a state when the last range leads to `target`. -/
def Growing.closed (g : Growing) (target : Nat) : List (ByteRange × Nat) :=
  match g.last with
  | some r => (r, target) :: g.edges
  | none => g.edges

/-- States that are built and can be shared, by the place that their hash gives
them. There is one state at a place, the latest. -/
abbrev Shared := Std.HashMap UInt64 (List (ByteRange × Nat) × Nat)

/-- The automaton and the states of it that can be shared. -/
structure Sharing where
  built : Footprint
  shared : Shared

namespace Sharing

/-- The number of the state with these edges. If there is none at its place `add`
adds it. -/
def stateWith (place : UInt64) (edges : List (ByteRange × Nat)) (add : Footprint → Footprint)
    (s : Sharing) : Nat × Sharing :=
  match s.shared[place]? with
  | some (known, number) => if known = edges then (number, s) else added
  | none => added
where
  added : Nat × Sharing :=
    (s.built.states, ⟨add s.built, s.shared.insert place (edges, s.built.states)⟩)

/-- The state that tests a byte for some ranges, the last of them first. -/
def branching (edges : List (ByteRange × Nat)) (s : Sharing) : Nat × Sharing :=
  let numbers := edges.foldl (fun ns (r, target) => r.first :: r.last :: target :: ns) []
  s.stateWith (hash numbers % 10000) edges (·.test edges.length)

/-- The state that tests a byte for one range. -/
def single (r : ByteRange) (target : Nat) (s : Sharing) : Nat × Sharing :=
  s.stateWith (hash [target, r.first, r.last] % 1000) [(r, target)] (·.state)

/-- Builds states from the innermost one on, which leads to `target`. -/
def finish (target : Nat) : List Growing → Sharing → Nat × Sharing
  | [], s => (target, s)
  | g :: gs, s =>
    let (next, s) := finish target gs s
    s.branching (g.closed next)

/-- Adds a sequence of byte ranges to the states under construction, those of the
sequence before it. The states behind what both have in common are finished. -/
def extend (target : Nat) : List ByteRange → List Growing → Sharing → List Growing × Sharing
  | r :: rs, g :: gs, s =>
    if g.last = some r then
      let (gs, s) := extend target rs gs s
      (g :: gs, s)
    else
      let (next, s) := finish target gs s
      (⟨g.closed next, some r⟩ :: rs.map (fun r => ⟨[], some r⟩), s)
  | _, gs, s => (gs, s)

/-- Builds the states for sequences of byte ranges that are read forward. Sequences
share how they begin and how they end. -/
def forward (sequences : List (List ByteRange)) (target : Nat) (s : Sharing) : Sharing :=
  let (growing, s) :=
    sequences.foldl (fun (gs, s) rs => extend target rs gs s) ([⟨[], none⟩], s)
  (finish target growing s).2

/-- Builds the states for sequences of byte ranges that are read backward. Sequences
share how they begin, and a fork leads to their ends. -/
def backward (sequences : List (List ByteRange)) (target : Nat) (s : Sharing) : Sharing :=
  sequences.foldl (fun s rs =>
    let s := (rs.foldl (fun (target, s) r => single r target s) (target, s)).2
    { s with built := s.built.reserve 4 }) s

end Sharing

/-- One character of a set. -/
def oneOf (back : Bool) (s : CharSet) (f : Footprint) : Footprint :=
  if s.isAscii then f.state.test s.ranges.size
  else
    let sequences := s.ranges.toList.flatMap ByteRange.sequences
    let built :=
      if back then (Sharing.backward sequences (f.states + 1) ⟨(f.fork 0).state, {}⟩).built
      else (Sharing.forward sequences f.states ⟨f.state, {}⟩).built
    { built with forks := false }

/-- Splits texts, given as bytes, at the empty ones. -/
def splitAtEmpty : List (List Nat) → List (List (List Nat))
  | [] => [[]]
  | [] :: texts => [] :: splitAtEmpty texts
  | text :: texts =>
    match splitAtEmpty texts with
    | [] => [[text]]
    | run :: runs => (text :: run) :: runs

/-- The texts without all but one of the empty ones in front. -/
def withoutRepeatedEmpty (texts : List (List Nat)) : List (List Nat) :=
  match texts with
  | [] :: rest => [] :: rest.dropWhile (·.isEmpty)
  | _ => texts

/-- A choice between texts, not all empty, that are at most `length` bytes long.
Texts share how they begin, unless one that ends there stands between them. -/
def texts : Nat → List (List Nat) → Footprint → Footprint
  | 0, _, f => f
  | length + 1, choices, f =>
    let runs := splitAtEmpty (withoutRepeatedEmpty choices)
    let f := runs.foldl (fun f run =>
      let firsts := (run.filterMap List.head?).eraseDups
      let f := firsts.foldl (fun f first =>
        let rests := (run.filter (·.head? = some first)).map List.tail
        if rests.all (·.isEmpty) then f else texts length rests f) f
      match firsts.length with
      | 0 => f
      | 1 => f.state
      | k => f.test k) f
    f.fork (runs.length - 1 + (runs.filter (!·.isEmpty)).length)

/-- The bytes of a pattern that is a text. -/
def textBytes? : Node → Option (List Nat)
  | .text cs => some (cs.flatMap fun c => encode c.toNat)
  | _ => none

/-- A choice between patterns that are texts. -/
def textChoice (back : Bool) (choices : List (List Nat)) (f : Footprint) : Footprint :=
  let length := choices.foldl (fun n bytes => max n bytes.length) 0
  texts length (if back then choices.map List.reverse else choices) f.state

end Footprint

open Footprint

mutual

/-- Adds a pattern to an automaton, which reads backward if `back` holds. -/
def Node.footprint (back : Bool) : Node → Footprint → Footprint
  | .empty, f | .look _, f => f.state
  | .text cs, f => f.chain (Text.byteLength cs)
  | .set s, f => if f.exceeds then f else f.oneOf back s
  | .group a, f => if back then a.footprint back f else (a.footprint back f.state).link.state
  | .sequence ps, f => footprintInOrder back ps f
  | .choice ps, f =>
    match ps.mapM textBytes? with
    | some choices => textChoice back choices f
    | none => footprintOfChoice back 0 ps f
  | .rep a least most _, f => rounds (a.footprint back) a.takesSome least most f

/-- Adds patterns one after the other; backward the last one comes first. -/
def footprintInOrder (back : Bool) : List Node → Footprint → Footprint
  | [], f => f
  | p :: ps, f =>
    if back then p.footprint back (footprintInOrder back ps f).link
    else footprintInOrder back ps (p.footprint back f.link)

/-- Adds branches of a choice of which this many have been added. The fork in front
of the branches and the state behind them come after the second one. -/
def footprintOfChoice (back : Bool) : Nat → List Node → Footprint → Footprint
  | _, [], f => f
  | count, p :: ps, f =>
    let f := (p.footprint back f).link.reserve 4
    footprintOfChoice back (count + 1) ps (if count = 1 then f.chain 2 else f)

end

/-- The automaton that finds where a pattern matches: in front of the pattern it
passes over characters, unless the pattern matches at an end of the text only. -/
def Node.totalFootprint (a : Node) (back : Bool) : Footprint :=
  let anchored := if back then a.endsText else a.startsText
  let start := if anchored then initial.state else (initial.fork 2).state.test 1
  let body := if back then a else .group a
  (body.footprint back start).link.state

/-- Whether the pattern is a choice between so many texts that no automaton is built
for it. -/
def Node.isWordList : Node → Bool
  | .choice ps => 3000 ≤ ps.length && (ps.mapM textBytes?).isSome
  | _ => false

/-- Whether a pattern is not too large. -/
def Node.fits (a : Node) : Bool :=
  a.isWordList || (!(a.totalFootprint false).exceeds && !(a.totalFootprint true).exceeds)

end PredictiveParsing.Pattern
