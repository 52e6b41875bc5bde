import Reflow.Text.Blank

/-!
# Lines of a text

Two ways to undo a layout. Compressing trims every line and drops the blank ones; collapsing takes
the line breaks out together with the blanks around them.
-/

namespace Reflow.Text

/-- Whether a character ends a line: a line feed or a carriage return. -/
def isLineBreak (char : Char) : Bool :=
  char == '\n' || char == '\r'

/-- The text without the characters that `isBreak` accepts and without the blanks around them. -/
def withoutBreaks (isBreak : Char → Bool) (text : Text) : Text :=
  ((splitAt isBreak text).map trim).flatten

/-- Trim every line, drop the blank ones and end each but the last with a line feed. -/
def compress (text : Text) : Text :=
  joinWith ['\n'] (((splitAt isLineBreak text).map trim).filter fun line => !line.isEmpty)

/-- Remove every line feed together with the blanks around it. -/
def collapse (text : Text) : Text :=
  withoutBreaks (· == '\n') text

end Reflow.Text
