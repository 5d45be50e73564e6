import PredictiveParsing.Pattern.CharSet

/-!
Patterns as trees. Every character test is a text or a set and every other test
looks at the two characters around a position. Patterns are put together by
functions that simplify: texts side by side are one text, a choice between
characters is a set, and what branches begin with in common stands before their
choice.
-/
namespace PredictiveParsing.Pattern

/-- A condition on the place between two characters. -/
inductive Look where
  | textStart
  | textEnd
  | lineStart (crlf : Bool)
  | lineEnd (crlf : Bool)
  | boundary (unicode : Bool)
  | noBoundary (unicode : Bool)
  | wordStart (unicode : Bool)
  | wordEnd (unicode : Bool)
  | noWordBefore (unicode : Bool)
  | noWordAfter (unicode : Bool)
deriving DecidableEq

namespace Look

/-- Whether there is a character and it belongs to a word. -/
def isWord (unicode : Bool) : Option Char → Bool
  | some c => if unicode then Unicode.word.contains c else CharSet.word.contains c
  | none => false

/-- Whether the condition holds between the character before and the one after;
at the ends of the text there is none. With `crlf` a carriage return and line
feed together end a line once. -/
def holds (look : Look) (before after : Option Char) : Bool :=
  match look with
  | textStart => before.isNone
  | textEnd => after.isNone
  | lineStart false => before.isNone || before = some '\n'
  | lineStart true =>
    before.isNone || before = some '\n' || (before = some '\r' && after ≠ some '\n')
  | lineEnd false => after.isNone || after = some '\n'
  | lineEnd true =>
    after.isNone || after = some '\r' || (after = some '\n' && before ≠ some '\r')
  | boundary u => isWord u before != isWord u after
  | noBoundary u => isWord u before == isWord u after
  | wordStart u => !isWord u before && isWord u after
  | wordEnd u => isWord u before && !isWord u after
  | noWordBefore u => !isWord u before
  | noWordAfter u => !isWord u after

end Look

/-- A pattern. Of the branches of a choice the earlier ones are preferred; a
repetition prefers more rounds if it is greedy and fewer otherwise. A group marks
a part of which the place in the text can be told. -/
inductive Node where
  | empty
  | text (cs : List Char)
  | set (s : CharSet)
  | look (l : Look)
  | group (a : Node)
  | sequence (parts : List Node)
  | choice (branches : List Node)
  | rep (a : Node) (least : Nat) (most : Option Nat) (greedy : Bool)

namespace Node

mutual

/-- Whether two patterns are written alike. No group is like another one. -/
def same : Node → Node → Bool
  | empty, empty => true
  | text a, text b => a == b
  | set s, set t => s == t
  | look k, look l => k == l
  | sequence ps, sequence qs => sameAll ps qs
  | choice ps, choice qs => sameAll ps qs
  | rep a least most greedy, rep b least' most' greedy' =>
    least == least' && most == most' && greedy == greedy' && same a b
  | _, _ => false

/-- Whether two lists of patterns are written alike. -/
def sameAll : List Node → List Node → Bool
  | [], [] => true
  | p :: ps, q :: qs => same p q && sameAll ps qs
  | _, _ => false

end

mutual

/-- The least number of characters that the pattern takes; `none` if it has a part
that never matches. -/
def least? : Node → Option Nat
  | empty | look _ => some 0
  | text cs => some cs.length
  | set s => if s.isEmpty then none else some 1
  | group a => a.least?
  | sequence ps => leastSum? ps
  | choice ps => leastOf? ps
  | rep a least _ _ => a.least?.map (least * ·)

/-- The least number of characters that patterns take one after the other. -/
def leastSum? : List Node → Option Nat
  | [] => some 0
  | p :: ps => p.least?.bind fun n => (leastSum? ps).map (n + ·)

/-- The least number of characters that one of the patterns takes. -/
def leastOf? : List Node → Option Nat
  | [] => none
  | [p] => p.least?
  | p :: ps => p.least?.bind fun n => (leastOf? ps).map (min n)

end

/-- Whether the pattern is sure to take a character. -/
def takesSome (a : Node) : Bool :=
  a.least?.any (0 < ·)

mutual

/-- Whether the pattern is sure to take no character. -/
def takesNone : Node → Bool
  | empty | look _ => true
  | text cs => cs.isEmpty
  | set _ => false
  | group a => a.takesNone
  | sequence ps | choice ps => allTakeNone ps
  | rep a _ most _ => most.isSome && a.takesNone

/-- Whether each of the patterns is sure to take no character. -/
def allTakeNone : List Node → Bool
  | [] => true
  | p :: ps => p.takesNone && allTakeNone ps

end

mutual

/-- Whether the pattern can match at the start of the text only. -/
def startsText : Node → Bool
  | look .textStart => true
  | group a => a.startsText
  | sequence ps => someStartsText ps
  | choice ps => allStartText ps
  | rep a least _ _ => 0 < least && a.startsText
  | _ => false

/-- Whether one of the parts of a sequence, before any of them takes a character,
can match at the start of the text only. -/
def someStartsText : List Node → Bool
  | [] => false
  | p :: ps => p.startsText || (p.takesNone && someStartsText ps)

/-- Whether each of the patterns can match at the start of the text only. -/
def allStartText : List Node → Bool
  | [] => true
  | p :: ps => p.startsText && allStartText ps

end

mutual

/-- Whether the pattern can match at the end of the text only. -/
def endsText : Node → Bool
  | look .textEnd => true
  | group a => a.endsText
  | sequence ps => someEndsText ps
  | choice ps => allEndText ps
  | rep a least _ _ => 0 < least && a.endsText
  | _ => false

/-- Whether one of the parts of a sequence, behind all that take a character, can
match at the end of the text only. -/
def someEndsText : List Node → Bool
  | [] => false
  | p :: ps => someEndsText ps || (allTakeNone ps && p.endsText)

/-- Whether each of the patterns can match at the end of the text only. -/
def allEndText : List Node → Bool
  | [] => true
  | p :: ps => p.endsText && allEndText ps

end

/-- One character. -/
def char (c : Char) : Node := text [c]

/-- One character of a set. -/
def oneOf (s : CharSet) : Node :=
  match s.onlyMember? with
  | some c => char c
  | none => set s

/-- Puts a part in front of others; texts become one. -/
def followedBy : Node → List Node → List Node
  | empty, ps => ps
  | text a, text b :: ps => text (a ++ b) :: ps
  | p, ps => p :: ps

/-- Patterns one after the other. -/
def inSequence (parts : List Node) : Node :=
  let parts := parts.flatMap fun
    | sequence ps => ps
    | p => [p]
  match parts.foldr followedBy [] with
  | [] => empty
  | [p] => p
  | ps => sequence ps

/-- The characters between which a choice is, if each branch takes just one. -/
def characters? (branches : List Node) : Option CharSet :=
  let letters := branches.mapM fun
    | text [c] => some (c.toNat, c.toNat)
    | _ => none
  let sets := branches.mapM fun
    | set s => some s.ranges.toList
    | _ => none
  (letters.map Unicode.RangeSet.ofRanges).or
    (sets.map fun ranges => Unicode.RangeSet.ofRanges ranges.flatten)

/-- The number of parts with which both sequences begin. -/
def commonLength : List Node → List Node → Nat
  | p :: ps, q :: qs => if p.same q then commonLength ps qs + 1 else 0
  | _, _ => 0

/-- The parts of a sequence. -/
def parts? : Node → Option (List Node)
  | sequence ps => some ps
  | _ => none

/-- A choice between branches. What they all begin with is put before a choice
between their rests, which loses at least one part of the first branch; `count`
bounds the number of times. -/
def choiceAfter : Nat → List Node → Node
  | 0, branches => choice branches
  | count + 1, branches =>
    let branches := branches.flatMap fun
      | choice ps => ps
      | p => [p]
    match branches with
    | [p] => p
    | _ =>
      match characters? branches, branches.mapM parts? with
      | some s, _ => oneOf s
      | none, some (first :: others) =>
        let shared := others.foldl (fun n ps => min n (commonLength first ps)) first.length
        if shared = 0 then choice branches
        else
          let rests := (first :: others).map fun ps => inSequence (ps.drop shared)
          inSequence (first.take shared ++ [choiceAfter count rests])
      | none, _ => choice branches

mutual

/-- The number of nodes of a pattern. -/
def size : Node → Nat
  | group a | rep a _ _ _ => a.size + 1
  | sequence ps | choice ps => totalSize ps + 1
  | _ => 1

/-- The number of nodes of patterns together. -/
def totalSize : List Node → Nat
  | [] => 0
  | p :: ps => p.size + totalSize ps

end

/-- A choice between patterns. -/
def between (branches : List Node) : Node :=
  choiceAfter (totalSize branches) branches

/-- Rounds of a pattern. Of a pattern that takes no character one round is as good
as many. -/
def repeated (a : Node) (least : Nat) (most : Option Nat) (greedy : Bool) : Node :=
  let (least, most) :=
    if a.takesNone then (min least 1, some (most.elim 1 (min · 1))) else (least, most)
  if most = some 0 then empty
  else if least = 1 ∧ most = some 1 then a
  else rep a least most greedy

end Node
end PredictiveParsing.Pattern
