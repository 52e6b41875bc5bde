import Reflow.Text.Lines

/-!
# Marks

What a scan puts on paper: pieces of text and turns to a new line. The marks know the level of each
new line, but neither the width of a level nor how lines are ended.
-/

namespace Reflow

/-- One mark of a scan. -/
inductive Mark where
  /-- Write a text on the current line. -/
  | write (text : Text)
  /-- End the current line and go on at a level. -/
  | turn (level : Int)
deriving DecidableEq, Repr

namespace Mark

/-- The lines that marks draw: what they add to the current line, and the lines behind it. -/
def draw (indentation : Int → Text) : List Mark → Text × List Text
  | [] => ([], [])
  | .write text :: marks =>
      let (line, lines) := draw indentation marks
      (text ++ line, lines)
  | .turn level :: marks =>
      let (line, lines) := draw indentation marks
      ([], (indentation level ++ line) :: lines)

/-- The lines that marks draw from the start of a document. Lines that hold blanks only are left
out. -/
def lines (indentation : Int → Text) (marks : List Mark) : List Text :=
  let (line, lines) := draw indentation marks
  (line :: lines).filter fun line => !line.blank

end Mark

end Reflow
