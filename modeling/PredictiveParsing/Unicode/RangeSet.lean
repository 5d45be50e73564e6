import PredictiveParsing.Numeral.Digit

/-!
Sets of characters held as sorted ranges of code points, with the set operations
on them. A table is written as text: hexadecimal code points and `first-last`
ranges, ascending and separated by blanks. Membership is a binary search over the
ranges.
-/
namespace PredictiveParsing.Unicode

/-- Inclusive ranges of code points, ascending, disjoint and not touching. A range
may pass over the surrogates, which are no characters. -/
structure RangeSet where
  ranges : Array (Nat × Nat)
deriving BEq, Inhabited

namespace RangeSet

/-- The part of a table read so far: finished ranges, the lower end of a range
whose upper end is being read, and the number being read. -/
private structure Reading where
  ranges : Array (Nat × Nat)
  first : Option Nat
  number : Option Nat

private def Reading.finish (r : Reading) : Array (Nat × Nat) :=
  match r.first, r.number with
  | some a, some b => r.ranges.push (a, b)
  | none, some b => r.ranges.push (b, b)
  | _, none => r.ranges

private def Reading.step (r : Reading) (c : Char) : Reading :=
  match Numeral.hexDigit? c with
  | some d => { r with number := some (16 * r.number.getD 0 + d) }
  | none =>
    if c = '-' then { r with first := r.number, number := none }
    else ⟨r.finish, none, none⟩

/-- Reads a table from its text. -/
def ofText (text : String) : RangeSet :=
  ⟨(text.foldl Reading.step ⟨#[], none, none⟩).finish⟩

/-- Whether some range among those from index `lo` up to `hi` holds `n`. -/
def search (ranges : Array (Nat × Nat)) (n lo hi : Nat) : Bool :=
  if lo < hi then
    match ranges[(lo + hi) / 2]? with
    | none => false
    | some (first, last) =>
      if n < first then search ranges n lo ((lo + hi) / 2)
      else if last < n then search ranges n ((lo + hi) / 2 + 1) hi
      else true
  else false
termination_by hi - lo

/-- Whether the set holds the code point. -/
def holds (s : RangeSet) (n : Nat) : Bool :=
  search s.ranges n 0 s.ranges.size

/-- Whether the set holds the character. -/
def contains (s : RangeSet) (c : Char) : Bool :=
  s.holds c.toNat

/-- The set without members. -/
def empty : RangeSet := ⟨#[]⟩

def isEmpty (s : RangeSet) : Bool :=
  s.ranges.isEmpty

/-- The characters from `a` to `b`. -/
def range (a b : Char) : RangeSet :=
  if a ≤ b then ⟨#[(a.toNat, b.toNat)]⟩ else empty

/-- The set with one member. -/
def single (a : Char) : RangeSet := range a a

/-- The set of all characters. -/
def every : RangeSet := ⟨#[(0, 0x10ffff)]⟩

/-- The only member, if there is one member. -/
def onlyMember? (s : RangeSet) : Option Char :=
  match s.ranges.toList with
  | [(a, b)] => if a = b then some (Char.ofNat a) else none
  | _ => none

/-- The upper end of the last range. -/
def last? (s : RangeSet) : Option Nat :=
  s.ranges.back?.map (·.2)

/-- Joins ranges with ascending lower ends where they overlap or touch. -/
def join : List (Nat × Nat) → List (Nat × Nat)
  | [] => []
  | r :: rs => go r rs
where
  /-- Goes on behind a range that later ones may still prolong. -/
  go (r : Nat × Nat) : List (Nat × Nat) → List (Nat × Nat)
    | [] => [r]
    | q :: qs => if q.1 ≤ r.2 + 1 then go (r.1, max r.2 q.2) qs else r :: go q qs

/-- The set of the code points in some of the ranges, which come in any order. -/
def ofRanges (ranges : List (Nat × Nat)) : RangeSet :=
  ⟨(join (ranges.mergeSort fun r q => r.1 ≤ q.1)).toArray⟩

/-- The set with these members. -/
def ofCodes (codes : List Nat) : RangeSet :=
  ofRanges (codes.map fun n => (n, n))

/-- The members of at least one of the sets. -/
def union (s t : RangeSet) : RangeSet :=
  ⟨(join (s.ranges.toList.merge t.ranges.toList fun r q => r.1 ≤ q.1)).toArray⟩

/-- The parts of ranges that lie in both lists. -/
def overlaps : List (Nat × Nat) → List (Nat × Nat) → List (Nat × Nat)
  | [], _ | _, [] => []
  | r :: rs, q :: qs =>
    let rest := if r.2 < q.2 then overlaps rs (q :: qs) else overlaps (r :: rs) qs
    if max r.1 q.1 ≤ min r.2 q.2 then (max r.1 q.1, min r.2 q.2) :: rest else rest
termination_by rs qs => rs.length + qs.length

/-- The members of both sets. -/
def inter (s t : RangeSet) : RangeSet :=
  ⟨(overlaps s.ranges.toList t.ranges.toList).toArray⟩

/-- The code point of the character after the one with code point `n`. -/
def next (n : Nat) : Nat :=
  if n = 0xd7ff then 0xe000 else n + 1

/-- The code point of the character before the one with code point `n`. -/
def previous (n : Nat) : Nat :=
  if n = 0xe000 then 0xd7ff else n - 1

/-- The ranges of characters from `first` on that lie between the given ones. -/
def gaps (first : Nat) : List (Nat × Nat) → List (Nat × Nat)
  | [] => if first ≤ 0x10ffff then [(first, 0x10ffff)] else []
  | r :: rs =>
    if first < r.1 then (first, previous r.1) :: gaps (next r.2) rs else gaps (next r.2) rs

/-- The characters outside the set. -/
def compl (s : RangeSet) : RangeSet :=
  ⟨(gaps 0 s.ranges.toList).toArray⟩

/-- The members of the first set outside the second. -/
def diff (s t : RangeSet) : RangeSet :=
  s.inter t.compl

/-- The members of just one of the sets. -/
def symmDiff (s t : RangeSet) : RangeSet :=
  (s.union t).diff (s.inter t)

end RangeSet
end PredictiveParsing.Unicode
