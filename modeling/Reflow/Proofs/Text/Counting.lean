import Reflow.Proofs.Text.Lines
import Reflow.Proofs.Text.Position

/-!
# Counting from one

A reader that counts lines and columns from one names each place of a text by one more than the row
and the column of its position. Line zero names the end of the text, where the segments between the
line feeds tell what the characters before the end tell elsewhere.
-/

namespace Reflow

namespace Text

variable {isBreak : Char → Bool}

theorem length_segments (text : Text) :
    (segments isBreak text).2.length = text.countP isBreak := by
  induction text with
  | nil => rfl
  | cons char rest ih =>
      cases separates : isBreak char with
      | true => simp [segments, separates, ih]
      | false => simp [segments, separates, ih]

theorem getLastD_segments (text : Text) :
    (segments (· == '\n') text).2.getLastD (segments (· == '\n') text).1 = text.lastLine := by
  obtain ⟨rows, isRows, divided, unbroken⟩ := exists_rows_append_lastLine text
  have whole : splitAt (· == '\n') text.lastLine = [text.lastLine] := by
    apply splitAt_of_not_mem
    intro char listed
    rw [beq_eq_false_iff_ne]
    rintro rfl
    exact unbroken listed
  generalize text.lastLine = line at divided whole ⊢
  subst divided
  cases rows using List.reverseRecOn with
  | nil =>
      rw [splitAt, List.cons.injEq] at whole
      rw [List.nil_append, whole.1, whole.2, List.getLastD_nil]
  | append_singleton front char =>
      have isFeed : char = '\n' := by
        have ends := isRows (by simp)
        rwa [List.getLast?_concat, Option.some.injEq] at ends
      rw [List.append_assoc, List.singleton_append, segments_append_cons (by simp [isFeed]), whole]
      exact List.getLastD_concat ..

end Text

namespace Position

/-- The end of a text is the position behind all of its characters. -/
theorem atEnd_eq (text : Text) : atEnd text = ofIndex text text.length := by
  calc atEnd text
      = { index := text.length
          row := (Text.segments (· == '\n') text).2.length
          column := ((Text.segments (· == '\n') text).2.getLastD
            (Text.segments (· == '\n') text).1).length } := rfl
    _ = ofIndex text text.length := by
        rw [Text.getLastD_segments, Text.length_segments, ofIndex, List.take_length]
        rfl

/-- Lines and columns, counted from one, name the places of a text. One more than the number of line
feeds among the first characters, with one more than the number of characters behind the last of
these, names the position behind the first characters. Line zero names the position behind all
characters, whatever the column. -/
theorem ofLineColumn_of_counted (text : Text) {index : Nat} (within : index ≤ text.length) :
    ofLineColumn text (1 + (text.take index).count '\n')
        (1 + (Text.lastLine (text.take index)).length) = ofIndex text index ∧
      ∀ column, ofLineColumn text 0 column = ofIndex text text.length := by
  refine ⟨?_, fun _ => atEnd_eq text⟩
  obtain ⟨rows, isRows, divided, unbroken⟩ := Text.exists_rows_append_lastLine (text.take index)
  rw [ofIndex]
  generalize Text.lastLine (text.take index) = line at divided unbroken ⊢
  have counted : (text.take index).count '\n' = rows.count '\n' := by
    rw [divided, Text.count_append_of_not_mem rows unbroken]
  have taken : rows.length + line.length = index := by
    rw [← List.length_append, ← divided, List.length_take_of_le within]
  have whole : text = rows ++ (line ++ text.drop index) := by
    rw [← List.append_assoc, ← divided, List.take_append_drop]
  calc ofLineColumn text (1 + (text.take index).count '\n') (1 + line.length)
      = ofLineColumn (rows ++ (line ++ text.drop index)) (rows.count '\n' + 1)
          (line.length + 1) := by
        rw [counted, ← whole, Nat.add_comm 1, Nat.add_comm 1]
    _ = { index := index, row := rows.count '\n', column := line.length } := by
        rw [ofLineColumn_append isRows, Nat.add_sub_cancel, taken]
    _ = { index, row := (text.take index).count '\n', column := line.length } := by rw [counted]

/-- The place behind a letter of two bytes, in a row behind an empty one. -/
theorem ofLineColumn_of_counted_of_letter :
    5 ≤ "a\n\nxé\n".toList.length ∧
    ofLineColumn "a\n\nxé\n".toList 3 3 = { index := 5, row := 2, column := 2 } ∧
    ∀ column, ofLineColumn "a\n\nxé\n".toList 0 column = { index := 6, row := 3, column := 0 } := by
  have within : 5 ≤ "a\n\nxé\n".toList.length := by decide
  exact ⟨within, ofLineColumn_of_counted "a\n\nxé\n".toList within⟩

end Position

end Reflow
