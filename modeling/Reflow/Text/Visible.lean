import Reflow.Unicode.Unprintable

/-!
# Texts in messages

A message that quotes a text shows every character of it: what cannot be seen is written by its code
point, and quotes and backslashes are escaped.
-/

namespace Reflow.Text

/-- Whether a character is shown as it is. -/
def isVisible (char : Char) : Bool :=
  if char.toNat < 0x7F then 0x20 ≤ char.toNat
  else !Unicode.unprintableRanges.contains char && !Unicode.extendingRanges.contains char

/-- A character as a message shows it. -/
def visibleChar (char : Char) : Text :=
  if char = '\x00' then ['\\', '0']
  else if char = '\t' then ['\\', 't']
  else if char = '\n' then ['\\', 'n']
  else if char = '\r' then ['\\', 'r']
  else if char = '"' ∨ char = '\\' then ['\\', char]
  else if isVisible char then [char]
  else ['\\', 'u', '{'] ++ Nat.toDigits 16 char.toNat ++ ['}']

/-- A text as a message quotes it. -/
def visible (text : Text) : Text :=
  '"' :: text.flatMap visibleChar ++ ['"']

end Reflow.Text
