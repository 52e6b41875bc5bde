import Reflow.Pattern.Match

/-!
# Searching a text

The leftmost place at which a pattern matches, with the preferred match there.
-/

namespace Reflow.Pattern

/-- A match found in a text. -/
structure Found where
  /-- The text before the match. -/
  skipped : Text
  /-- The text of the match. -/
  text : Text
  /-- The place behind the match, with what the groups have matched. -/
  last : Cursor
deriving DecidableEq, Repr

/-- The leftmost match in `text`, which follows the character `before`. -/
def find? (pattern : Pattern) (before : Option Char) (text : Text) : Option Found :=
  match pattern.matchHere? before text with
  | some last => some { skipped := [], text := (Cursor.start before text).textUpTo last, last }
  | none =>
      match text with
      | [] => none
      | char :: rest =>
          if pattern.anchored then none
          else (find? pattern (some char) rest).map fun found =>
            { found with skipped := char :: found.skipped }

/-- Whether a pattern matches anywhere in a text. -/
def occursIn (pattern : Pattern) (text : Text) : Bool :=
  (pattern.find? none text).isSome

end Reflow.Pattern
