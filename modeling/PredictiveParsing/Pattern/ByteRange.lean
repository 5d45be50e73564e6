/-!
Characters as bytes in UTF-8. A range of characters is split into parts each of
which is a sequence of byte ranges: its characters are those whose first byte lies
in the first range, the second one in the second range and so on.
-/
namespace PredictiveParsing.Pattern

/-- The bytes from `first` to `last`. -/
structure ByteRange where
  first : Nat
  last : Nat
deriving DecidableEq

/-- The bytes of the character with this code point. -/
def encode (n : Nat) : List Nat :=
  if n < 0x80 then [n]
  else if n < 0x800 then [0xc0 + n / 64, 0x80 + n % 64]
  else if n < 0x10000 then [0xe0 + n / 4096, 0x80 + n / 64 % 64, 0x80 + n % 64]
  else [0xf0 + n / 262144, 0x80 + n / 4096 % 64, 0x80 + n / 64 % 64, 0x80 + n % 64]

namespace ByteRange

/-- Splits the code points from `a` to `b` at the blocks of the given sizes, from
small to large: of the smallest blocks only the first and the last one may be part
of the range and not wholly in it, and the blocks between them are split at the
larger ones. -/
def blocks : List Nat → Nat → Nat → List (Nat × Nat)
  | [], a, b => [(a, b)]
  | size :: sizes, a, b =>
    if a / size = b / size then [(a, b)]
    else
      let start := (a + size - 1) / size * size
      let head := if a < start then [(a, start - 1)] else []
      if start / size = b / size then head ++ [(start, b)]
      else
        let stop := (b + 1) / size * size
        let tail := if stop ≤ b then [(stop, b)] else []
        head ++ blocks sizes start (stop - 1) ++ tail

/-- The code points that take one byte, two, three and four, without the
surrogates. -/
def lengths : List (Nat × Nat) :=
  [(0, 0x7f), (0x80, 0x7ff), (0x800, 0xd7ff), (0xe000, 0xffff), (0x10000, 0x10ffff)]

/-- The sequences of byte ranges of the characters in a range of code points,
ascending. -/
def sequences (r : Nat × Nat) : List (List ByteRange) :=
  lengths.flatMap fun band =>
    let a := max r.1 band.1
    let b := min r.2 band.2
    if b < a then []
    else if b < 0x80 then [[⟨a, b⟩]]
    else (blocks [64, 4096, 262144] a b).map fun (a, b) =>
      (encode a).zipWith ByteRange.mk (encode b)

end ByteRange
end PredictiveParsing.Pattern
