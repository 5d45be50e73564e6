import PredictiveParsing.Pattern.Node

/-!
Patterns as programs. An instruction tests a character, looks around or prefers
one continuation over another; a program runs as many threads as it has
instructions, so a search takes time proportional to the text.
-/
namespace PredictiveParsing.Pattern

/-- One step of a program; numbers are the places of the instructions that go
on. -/
inductive Instruction where
  | accept
  | char (s : CharSet) (next : Nat)
  | look (l : Look) (next : Nat)
  | fork (preferred other : Nat)

/-- The instructions emitted so far. -/
abbrev Code := Array Instruction

namespace Code

/-- Adds an instruction and gives its place. -/
def emit (code : Code) (i : Instruction) : Code × Nat :=
  let place := code.size
  (code.push i, place)

/-- A fork that prefers another round if greedy and the way out otherwise. -/
def roundOr (greedy : Bool) (round out : Nat) : Instruction :=
  if greedy then .fork round out else .fork out round

/-- Emits a body one or more times: behind each round a fork returns or goes on
to `next`. -/
def oneOrMore (body : Nat → Code → Code × Nat) (greedy : Bool) (next : Nat) (code : Code) :
    Code × Nat :=
  let (code, back) := code.emit .accept
  let (code, entry) := body back code
  (code.setIfInBounds back (roundOr greedy entry next), entry)

/-- Emits a body any number of times. The way past it lies before the first round
if a round may take nothing, and else at the fork behind each round. -/
def zeroOrMore (body : Nat → Code → Code × Nat) (mayBeEmpty greedy : Bool) (next : Nat)
    (code : Code) : Code × Nat :=
  if mayBeEmpty then
    let (code, entry) := oneOrMore body greedy next code
    code.emit (roundOr greedy entry next)
  else
    let (code, back) := code.emit .accept
    let (code, entry) := body back code
    (code.setIfInBounds back (roundOr greedy entry next), back)

/-- Emits copies of a body one after the other. -/
def copies (body : Nat → Code → Code × Nat) : Nat → Nat → Code → Code × Nat
  | 0, next, code => (code, next)
  | n + 1, next, code =>
    let (code, entry) := body next code
    copies body n entry code

/-- Emits rounds each of which may be the last: after any of them the way leads to
`out`. -/
def optional (body : Nat → Code → Code × Nat) (greedy : Bool) (out : Nat) :
    Nat → Nat → Code → Code × Nat
  | 0, next, code => (code, next)
  | n + 1, next, code =>
    let (code, entry) := body next code
    let (code, entry) := code.emit (roundOr greedy entry out)
    optional body greedy out n entry code

end Code

namespace Code

/-- Emits a text. -/
def text (cs : List Char) (next : Nat) (code : Code) : Code × Nat :=
  cs.foldr (fun c (code, next) => code.emit (.char (.single c) next)) (code, next)

end Code

mutual

/-- Emits a pattern that goes on at `next`, and gives the place where it
begins. -/
def Node.emit : Node → Nat → Code → Code × Nat
  | .empty, next, code => (code, next)
  | .text cs, next, code => code.text cs next
  | .set s, next, code => code.emit (.char s next)
  | .look l, next, code => code.emit (.look l next)
  | .group a, next, code => a.emit next code
  | .sequence ps, next, code => emitInOrder ps next code
  | .choice ps, next, code => emitChoice ps next code
  | .rep a least most greedy, next, code =>
    match most with
    | none =>
      if least = 0 then Code.zeroOrMore a.emit (!a.takesSome) greedy next code
      else
        let (code, entry) := Code.oneOrMore a.emit greedy next code
        Code.copies a.emit (least - 1) entry code
    | some most =>
      let (code, entry) := Code.optional a.emit greedy next (most - least) next code
      Code.copies a.emit least entry code

/-- Emits patterns one after the other, the last one first. -/
def emitInOrder : List Node → Nat → Code → Code × Nat
  | [], next, code => (code, next)
  | p :: ps, next, code =>
    let (code, middle) := emitInOrder ps next code
    p.emit middle code

/-- Emits branches, with a fork that prefers each to those after it. -/
def emitChoice : List Node → Nat → Code → Code × Nat
  | [], next, code => (code, next)
  | [p], next, code => p.emit next code
  | p :: ps, next, code =>
    let (code, preferred) := p.emit next code
    let (code, other) := emitChoice ps next code
    code.emit (.fork preferred other)

end

/-- A program with the place where it starts. -/
structure Program where
  code : Code
  entry : Nat

/-- The program of a pattern. -/
def Program.ofNode (node : Node) : Program :=
  let (code, entry) := node.emit 0 #[.accept]
  ⟨code, entry⟩

end PredictiveParsing.Pattern
