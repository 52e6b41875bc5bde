import Reflow.Text.Basic

/-!
# Positions in a text

A position names a place in a text by its character offset and by row and column, all counted from
zero. A reader that counts lines and columns from one is served by `Position.ofLineColumn`.
-/

namespace Reflow

/-- A place in a text. All three numbers count from zero. -/
structure Position where
  /-- Number of characters before the place. -/
  index : Nat
  /-- Number of line feeds before the place. -/
  row : Nat
  /-- Number of characters between the last of these line feeds and the place. -/
  column : Nat
deriving DecidableEq, Repr

namespace Text

/-- The character offset at which the given row starts, or the length of a text with fewer rows. -/
def rowStart : (row : Nat) → Text → Nat
  | 0, _ => 0
  | _ + 1, [] => 0
  | row + 1, char :: rest =>
      1 + if char = '\n' then rowStart row rest else rowStart (row + 1) rest

end Text

namespace Position

/-- The place behind the last character of a text. -/
def atEnd (text : Text) : Position :=
  let (first, others) := Text.segments (· == '\n') text
  { index := text.length
    row := others.length
    column := (others.getLastD first).length }

/-- The place that a line and a column, both counted from one, name in a text. Line zero stands for
the end of the text; column zero is taken for the first column. -/
def ofLineColumn (text : Text) (line column : Nat) : Position :=
  match line with
  | 0 => atEnd text
  | row + 1 => { index := text.rowStart row + (column - 1), row, column := column - 1 }

end Position

end Reflow
