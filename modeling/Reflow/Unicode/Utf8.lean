import Reflow.Unicode.CodeRanges

/-!
# Encodings of ranges

The encodings of the characters in a range, as UTF-8, divided into groups in which every byte runs
through a range of its own.
-/

namespace Reflow.Unicode

/-- The encoding of a code point. -/
def encode (code : Nat) : List UInt8 :=
  String.utf8EncodeChar (Char.ofNat code)

/-- A range of bytes. -/
structure ByteRange where
  first : UInt8
  last : UInt8
deriving DecidableEq, Repr

/-- The last code point of the first part, if a range has to be divided. It has to be where
encodings become longer, and where the bytes behind some place do not run through all their values.
-/
def splitPoint? (first last : Nat) : Option Nat :=
  ([0x7F, 0x7FF, 0xFFFF].find? fun bound => first ≤ bound && bound < last).or <|
    if last ≤ 0x7F then none
    else
      [0x40, 0x1000, 0x40000].findSome? fun block =>
        if first / block = last / block then none
        else if first % block ≠ 0 then some (first / block * block + (block - 1))
        else if last % block ≠ block - 1 then some (last / block * block - 1)
        else none

/-- The groups of encodings for a range without surrogates, in increasing order; `fuel` bounds how
often the range is divided. -/
def encodingsUpTo : (fuel : Nat) → (first last : Nat) → List (List ByteRange)
  | 0, _, _ => []
  | fuel + 1, first, last =>
      match splitPoint? first last with
      | some middle => encodingsUpTo fuel first middle ++ encodingsUpTo fuel (middle + 1) last
      | none => [List.zipWith ByteRange.mk (encode first) (encode last)]

/-- The groups of encodings for the characters in ranges. A range is divided at most three times for
the lengths of encodings and twice for each of three bytes. -/
def encodings (ranges : CodeRanges) : List (List ByteRange) :=
  (ranges.flatMap CodeRanges.dropSurrogates).flatMap fun range =>
    encodingsUpTo 16 range.1 range.2

end Reflow.Unicode
