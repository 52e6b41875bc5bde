import Reflow.Text.Blank
import Reflow.Unicode.Word
import Reflow.Unicode.Fold

/-!
# Sets of characters

A set is kept as the expression that describes it and is asked for single characters, so complements
and the large Unicode classes cost nothing. Where the members have to be listed, they are listed as
ranges.
-/

namespace Reflow

open Unicode (CodeRanges)

/-- A description of a set of characters. -/
inductive CharSet where
  /-- No character at all. -/
  | none
  /-- One character. -/
  | only (char : Char)
  /-- The characters between two characters, both included. -/
  | range (first last : Char)
  /-- The characters of words. -/
  | word
  /-- The decimal digits. -/
  | digit
  /-- The blanks. -/
  | space
  /-- The characters of a list. -/
  | listed (ranges : CodeRanges)
  | union (left right : CharSet)
  | intersection (left right : CharSet)
  | difference (left right : CharSet)
  | complement (set : CharSet)
  /-- The characters that differ in case only from a member. -/
  | anyCase (set : CharSet)
  /-- The characters that are a member or an ASCII letter that differs in case only from one. -/
  | anyAsciiCase (set : CharSet)
deriving DecidableEq, Repr

namespace CharSet

/-- The other case of an ASCII letter; any other character is left as it is. -/
def swapAsciiCase (char : Char) : Char :=
  if char.isLower then char.toUpper else char.toLower

/-- Whether a character belongs to the set. -/
def contains : CharSet → Char → Bool
  | .none, _ => false
  | .only member, char => char == member
  | .range first last, char => decide (first ≤ char) && decide (char ≤ last)
  | .word, char => Unicode.isWord char
  | .digit, char => Unicode.isDigit char
  | .space, char => Text.isBlank char
  | .listed ranges, char => ranges.contains char
  | .union left right, char => left.contains char || right.contains char
  | .intersection left right, char => left.contains char && right.contains char
  | .difference left right, char => left.contains char && !right.contains char
  | .complement set, char => !set.contains char
  | .anyCase set, char => (Unicode.caseVariants char).any set.contains
  | .anyAsciiCase set, char => set.contains char || set.contains (swapAsciiCase char)

/-- Every character. -/
def all : CharSet := .complement .none

/-- The characters that belong to exactly one of two sets. -/
def symmetricDifference (left right : CharSet) : CharSet :=
  .union (.difference left right) (.difference right left)

/-- The union of several sets. -/
def unions (sets : List CharSet) : CharSet :=
  sets.foldr .union .none

/-- The ASCII letters. -/
def asciiLetters : List Char :=
  (List.range 26).flatMap fun index => [.ofNat (0x41 + index), .ofNat (0x61 + index)]

/-- Add those of some characters that have a property to ranges in normal form. -/
def addWhere (holds : Char → Bool) (chars : List Char) (ranges : CodeRanges) : CodeRanges :=
  (chars.filter holds).foldl (fun ranges char => ranges.insert (char.toNat, char.toNat)) ranges

/-- The members of the set, as ranges in normal form. -/
def ranges : CharSet → CodeRanges
  | .none => []
  | .only char => [(char.toNat, char.toNat)]
  | .range first last => if first ≤ last then [(first.toNat, last.toNat)] else []
  | .word => Unicode.wordRanges
  | .digit => Unicode.digitRanges
  | .space => Text.blankRanges
  | .listed ranges => ranges.normal
  | .union left right => left.ranges.union right.ranges
  | .intersection left right => left.ranges.intersection right.ranges
  | .difference left right => left.ranges.intersection right.ranges.complement
  | .complement set => set.ranges.complement
  | .anyCase set =>
      addWhere (fun char => (Unicode.caseVariants char).any set.contains) Unicode.casedChars
        set.ranges
  | .anyAsciiCase set =>
      addWhere (fun char => set.contains (swapAsciiCase char)) asciiLetters set.ranges

end CharSet

end Reflow
