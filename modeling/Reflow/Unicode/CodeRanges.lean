import Reflow.Text.Basic
import Reflow.Text.Digits

/-!
# Ranges of code points

Sets of characters of which the standard gives a list: increasing ranges of code points. Long lists
are kept in a short notation, `61-7A AA 100-12E/2`: ranges of hexadecimal numbers, and where a
number follows a slash, only every so many code points of the range.
-/

namespace Reflow.Unicode

/-- Ranges of code points, each with its first and its last one. -/
abbrev CodeRanges := List (Nat × Nat)

namespace CodeRanges

/-- Whether a character is in one of the ranges. -/
def contains (ranges : CodeRanges) (char : Char) : Bool :=
  ranges.any fun (first, last) => first ≤ char.toNat && char.toNat ≤ last

/-! ## Sets of code points

Ranges are in normal form if they are increasing and neither overlap nor touch. -/

/-- The largest code point. -/
def last : Nat := 0x10FFFF

/-- Add a range to ranges in normal form. -/
def insert (range : Nat × Nat) : CodeRanges → CodeRanges
  | [] => [range]
  | first :: others =>
      if range.2 + 1 < first.1 then range :: first :: others
      else if first.2 + 1 < range.1 then first :: insert range others
      else insert (min range.1 first.1, max range.2 first.2) others

/-- The code points of either one. The left side has to be in normal form. -/
def union (left right : CodeRanges) : CodeRanges :=
  right.foldl (fun ranges range => insert range ranges) left

/-- The ranges in normal form. -/
def normal (ranges : CodeRanges) : CodeRanges :=
  union [] ranges

/-- The code points from `start` on that ranges in normal form leave out. -/
def gapsFrom (start : Nat) : CodeRanges → CodeRanges
  | [] => if start ≤ last then [(start, last)] else []
  | range :: others =>
      if start < range.1 then (start, range.1 - 1) :: gapsFrom (range.2 + 1) others
      else gapsFrom (range.2 + 1) others

/-- The part of a range that consists of characters: surrogates are none. -/
def dropSurrogates (range : Nat × Nat) : CodeRanges :=
  let below := (range.1, min range.2 0xD7FF)
  let above := (max range.1 0xE000, range.2)
  [below, above].filter fun part => part.1 ≤ part.2

/-- The characters that ranges in normal form leave out. -/
def complement (ranges : CodeRanges) : CodeRanges :=
  (gapsFrom 0 ranges).flatMap dropSurrogates

/-- The characters of both. Both sides have to be in normal form. -/
def intersection (left right : CodeRanges) : CodeRanges :=
  complement (union (complement left) (complement right))

/-! ## The short notation -/

/-- The number that hexadecimal digits denote. -/
def hexValue (digits : Text) : Nat :=
  digits.foldl (fun value digit => 16 * value + (Text.hexDigit? digit).getD 0) 0

/-- Every `stride`-th code point from `first` to `last`. -/
def everyNth (first last stride : Nat) : CodeRanges :=
  (List.range ((last - first) / stride + 1)).map fun index =>
    (first + index * stride, first + index * stride)

/-- The ranges that one entry of the notation stands for. -/
def ofEntry (entry : Text) : CodeRanges :=
  match Text.splitAt (fun char => char == '-' || char == '/') entry with
  | [only] => [(hexValue only, hexValue only)]
  | [first, last] => [(hexValue first, hexValue last)]
  | [first, last, stride] => everyNth (hexValue first) (hexValue last) (hexValue stride)
  | _ => []

/-- The ranges that lines of the notation stand for. -/
def ofLines (lines : List String) : CodeRanges :=
  lines.flatMap fun line => (Text.splitAt (· == ' ') line.toList).flatMap ofEntry

end CodeRanges

/-- A list of code points that goes by several names. -/
structure NamedRanges where
  names : List String
  /-- The code points in the short notation. -/
  lines : List String

/-- The code points of the entry that goes by a name. -/
def NamedRanges.find? (entries : List NamedRanges) (name : String) : Option CodeRanges :=
  (entries.find? (·.names.contains name)).map fun entry => CodeRanges.ofLines entry.lines

end Reflow.Unicode
