import Reflow.Unicode.CodeRanges

/-!
# Blank characters

The characters with the Unicode property White_Space, and the removal of blanks from the two ends
of a text.
-/

namespace Reflow.Text

/-- The code points that are white space: the Unicode property White_Space. -/
def blankRanges : Unicode.CodeRanges :=
  [(0x9, 0xD), (0x20, 0x20), (0x85, 0x85), (0xA0, 0xA0), (0x1680, 0x1680), (0x2000, 0x200A),
   (0x2028, 0x2029), (0x202F, 0x202F), (0x205F, 0x205F), (0x3000, 0x3000)]

/-- Whether a character is white space. -/
def isBlank (char : Char) : Bool :=
  blankRanges.contains char

/-- The text without the blanks at its start. -/
def trimStart (text : Text) : Text :=
  text.dropWhile isBlank

/-- The text without the blanks at its end. -/
def trimEnd (text : Text) : Text :=
  (trimStart text.reverse).reverse

/-- The text without the blanks at its two ends. -/
def trim (text : Text) : Text :=
  trimEnd (trimStart text)

/-- Whether a text holds blanks only. -/
def blank (text : Text) : Bool :=
  text.all isBlank

end Reflow.Text
