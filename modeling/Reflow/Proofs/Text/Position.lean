import Mathlib.Data.List.Induction
import Mathlib.Data.List.TakeWhile
import Reflow.Proofs.Text.Bytes
import Reflow.Text.Position

/-!
# Rows and columns

The position of a character offset, by counting line feeds and the characters behind the last of
them. A line and a column name such a position exactly if the row is long enough for the column.
-/

namespace Reflow

namespace Text

/-- The characters behind the last line feed. -/
def lastLine (text : Text) : Text :=
  (text.reverse.takeWhile (· != '\n')).reverse

/-- The characters of a row, without the line feed at its end. -/
def rowText (row : Nat) (text : Text) : Text :=
  (text.drop (text.rowStart row)).takeWhile (· != '\n')

/-- A text that consists of whole rows, each with its line feed. -/
def Rows (text : Text) : Prop :=
  text ≠ [] → text.getLast? = some '\n'

theorem lastLine_concat_feed (front : Text) : lastLine (front ++ ['\n']) = [] := by
  simp [lastLine]

theorem lastLine_concat {char : Char} (other : char ≠ '\n') (front : Text) :
    lastLine (front ++ [char]) = lastLine front ++ [char] := by
  simp [lastLine, other]

variable {rows line rest : Text}

/-- Every text is some rows and then its last line. -/
theorem exists_rows_append_lastLine (text : Text) :
    ∃ rows, Rows rows ∧ text = rows ++ text.lastLine ∧ '\n' ∉ text.lastLine := by
  have divided : text.reverse.takeWhile (· != '\n') ++ text.reverse.dropWhile (· != '\n') =
      text.reverse := List.takeWhile_append_dropWhile
  refine ⟨(text.reverse.dropWhile (· != '\n')).reverse, fun notEmpty => ?_, ?_, fun listed => ?_⟩
  · rw [List.getLast?_reverse]
    cases left : text.reverse.dropWhile (· != '\n') with
    | nil => exact absurd (by rw [left]; rfl) notEmpty
    | cons char others =>
        have stops := List.head?_dropWhile_not (· != '\n') text.reverse
        rw [left] at stops
        have isFeed : char = '\n' := by simpa using stops
        rw [isFeed, List.head?_cons]
  · rw [lastLine, ← List.reverse_append, divided, List.reverse_reverse]
  · have within := List.mem_takeWhile_imp (List.mem_reverse.mp listed)
    simp at within

theorem lastLine_append (isRows : Rows rows) (unbroken : '\n' ∉ line) :
    lastLine (rows ++ line) = line := by
  have kept : ∀ char ∈ line.reverse, (char != '\n') = true := by
    intro char listed
    rw [bne_iff_ne]
    rintro rfl
    exact unbroken (List.mem_reverse.mp listed)
  rw [lastLine, List.reverse_append, List.takeWhile_append_of_pos kept]
  cases rows using List.reverseRecOn with
  | nil => simp
  | append_singleton others char =>
      have ends := isRows (by simp)
      rw [List.getLast?_concat, Option.some.injEq] at ends
      simp [ends]

theorem count_append_of_not_mem (rows : Text) (unbroken : '\n' ∉ line) :
    (rows ++ line).count '\n' = rows.count '\n' := by
  rw [List.count_append, List.count_eq_zero_of_not_mem unbroken, Nat.add_zero]

/-- A row starts behind the rows before it. -/
theorem rowStart_append (isRows : Rows rows) (rest : Text) :
    rowStart (rows.count '\n') (rows ++ rest) = rows.length := by
  induction rows with
  | nil => simp [rowStart]
  | cons char others ih =>
      by_cases empty : others = []
      · subst empty
        have isFeed : char = '\n' := by simpa using isRows (by simp)
        simp [isFeed, rowStart]
      · have isRowsToo : Rows others := fun _ => by
          rw [← List.getLast?_cons_of_ne_nil empty]
          exact isRows (by simp)
        have ahead := ih isRowsToo
        have last : '\n' ∈ others := List.mem_of_getLast? (isRowsToo empty)
        obtain ⟨row, counted⟩ := Nat.exists_eq_succ_of_ne_zero
          (Nat.ne_of_gt (List.count_pos_iff.mpr last))
        by_cases isFeed : char = '\n'
        · rw [isFeed, List.count_cons_self, List.cons_append, rowStart, if_pos rfl, ahead,
            List.length_cons, Nat.add_comm]
        · rw [List.count_cons_of_ne isFeed, counted, List.cons_append, rowStart, if_neg isFeed,
            ← Nat.succ_eq_add_one, ← counted, ahead, List.length_cons, Nat.add_comm]

theorem rowText_append (isRows : Rows rows) (rest : Text) :
    rowText (rows.count '\n') (rows ++ rest) = rest.takeWhile (· != '\n') := by
  rw [rowText, rowStart_append isRows, List.drop_left]

end Text

namespace Position

/-- The position of a character offset: its row is the number of line feeds before it, its column
the number of characters behind the last of these. -/
def ofIndex (text : Text) (index : Nat) : Position where
  index := index
  row := (text.take index).count '\n'
  column := (Text.lastLine (text.take index)).length

/-- Whether a position names a place in a text, each of its numbers the right one. -/
def Names (position : Position) (text : Text) : Prop :=
  position.index ≤ text.length ∧ position = ofIndex text position.index

/-- The position that is named by a row and a column of a text, both counted from one. -/
theorem ofLineColumn_append {rows : Text} (isRows : rows.Rows) (rest : Text) (column : Nat) :
    ofLineColumn (rows ++ rest) (rows.count '\n' + 1) column =
      { index := rows.length + (column - 1), row := rows.count '\n', column := column - 1 } := by
  rw [ofLineColumn, Text.rowStart_append isRows]

/-- A row and a column name a place exactly if the row has that many characters. -/
theorem names_append_iff {rows : Text} (isRows : rows.Rows) (rest : Text) (column : Nat) :
    Names { index := rows.length + column, row := rows.count '\n', column } (rows ++ rest) ↔
      column ≤ (rest.takeWhile (· != '\n')).length := by
  have divided : rest.takeWhile (· != '\n') ++ rest.dropWhile (· != '\n') = rest :=
    List.takeWhile_append_dropWhile
  have unbroken : '\n' ∉ rest.takeWhile (· != '\n') := fun listed => by
    simpa using List.mem_takeWhile_imp listed
  have stops := List.head?_dropWhile_not (· != '\n') rest
  generalize rest.takeWhile (· != '\n') = line at divided unbroken ⊢
  generalize rest.dropWhile (· != '\n') = others at divided stops
  subst divided
  have cut : (rows ++ (line ++ others)).take (rows.length + column) =
      rows ++ (line ++ others).take column := List.take_length_add_append column
  constructor
  · rintro ⟨within, same⟩
    by_contra beyond
    rw [Nat.not_le] at beyond
    -- Beyond the end of its line there is a line feed, or nothing at all.
    cases others with
    | nil =>
        simp only [List.append_nil, List.length_append] at within
        omega
    | cons char others =>
        have isFeed : char = '\n' := by simpa using stops
        have fed : '\n' ∈ (line ++ char :: others).take column := by
          rw [List.take_append, List.mem_append, isFeed]
          obtain ⟨more, equal⟩ := Nat.exists_eq_add_of_lt beyond
          right
          rw [equal, Nat.add_assoc, Nat.add_sub_cancel_left, List.take_succ_cons]
          exact List.mem_cons_self
        have counted := congrArg Position.row same
        simp only [ofIndex, cut, List.count_append] at counted
        have positive := List.count_pos_iff.mpr fed
        omega
  · intro within
    have taken : (line ++ others).take column = line.take column :=
      List.take_append_of_le_length within
    have stillUnbroken : '\n' ∉ line.take column := fun listed =>
      unbroken (List.mem_of_mem_take listed)
    refine ⟨by simp only [List.length_append]; omega, ?_⟩
    rw [ofIndex, cut, taken, Text.count_append_of_not_mem rows stillUnbroken,
      Text.lastLine_append isRows stillUnbroken, List.length_take, Nat.min_eq_left within]

end Position

end Reflow
