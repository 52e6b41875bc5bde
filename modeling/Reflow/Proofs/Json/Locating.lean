import Mathlib
import Reflow.Json.Parser
import Reflow.Proofs.Text.Position

/-!
# Where a fault is reported

A reader counts the bytes that it has consumed, and the column of a fault is a number of bytes. The
position that is reported takes it for a number of characters. Where the row of the fault holds
ASCII characters only, both are the same, and the position is a place in the text. With other
characters on the row it may lie too far to the right: it still is a place in the text exactly if
the row is long enough.
-/

namespace Reflow.Json

/-- A number of bytes at the start of a text that are not a whole character yet. -/
def Partial (extra : Nat) (text : Text) : Prop :=
  extra = 0 ∨ ∃ char rest, text = char :: rest ∧ extra < char.utf8Size

/-- Any number of bytes of a text make up some characters and perhaps a part of the next one. -/
theorem exists_partial {count : Nat} {text : Text} (within : count ≤ text.byteLength) :
    ∃ front rest extra, text = front ++ rest ∧ count = Text.byteLength front + extra ∧
      Partial extra rest := by
  induction text generalizing count with
  | nil => exact ⟨[], [], 0, rfl, by simpa using within, .inl rfl⟩
  | cons char text ih =>
      rw [Text.byteLength_cons] at within
      by_cases whole : char.utf8Size ≤ count
      · obtain ⟨front, rest, extra, rfl, counted, isPartial⟩ :=
          ih (Nat.sub_le_iff_le_add'.mpr within)
        refine ⟨char :: front, rest, extra, rfl, ?_, isPartial⟩
        rw [Text.byteLength_cons]
        omega
      · have isPartial : Partial count (char :: text) :=
          .inr ⟨char, text, rfl, Nat.lt_of_not_le whole⟩
        exact ⟨[], char :: text, count, rfl, by simp, isPartial⟩

namespace Location

variable {place : Location}

@[simp] theorem advance_zero (place : Location) (text : Text) : place.advance 0 text = place := by
  cases text <;> simp [advance]

theorem advance_feed (place : Location) (count : Nat) (rest : Text) :
    place.advance (count + 1) ('\n' :: rest) =
      advance { line := place.line + 1, column := 0 } count rest := by
  simp [advance]

theorem advance_cons {char : Char} (other : char ≠ '\n') (place : Location) (count : Nat)
    (rest : Text) :
    place.advance (char.utf8Size + count) (char :: rest) =
      advance { place with column := place.column + char.utf8Size } count rest := by
  have positive := char.utf8Size_pos
  rw [advance, if_neg (by omega), if_neg other, Nat.min_eq_left (by omega)]
  simp

theorem advance_append (place : Location) (front rest : Text) (count : Nat) :
    place.advance (front.byteLength + count) (front ++ rest) =
      (place.advance front.byteLength front).advance count rest := by
  induction front generalizing place with
  | nil => simp
  | cons char front ih =>
      rw [List.cons_append, Text.byteLength_cons, Nat.add_assoc]
      by_cases isFeed : char = '\n'
      · have size : '\n'.utf8Size = 1 := rfl
        rw [isFeed, size, Nat.add_comm 1, Nat.add_comm 1, advance_feed, advance_feed, ih]
      · rw [advance_cons isFeed, advance_cons isFeed, ih]

/-- Inside of a character there is no line feed. -/
theorem advance_partial {extra : Nat} {rest : Text} (place : Location)
    (isPartial : Partial extra rest) :
    place.advance extra rest = { place with column := place.column + extra } := by
  rcases isPartial with rfl | ⟨char, more, rfl, less⟩
  · simp
  · rcases Nat.eq_zero_or_pos extra with rfl | positive
    · simp
    · have other : char ≠ '\n' := by
        rintro rfl
        have size : '\n'.utf8Size = 1 := rfl
        omega
      rw [advance, if_neg (Nat.ne_of_gt positive), if_neg other, Nat.min_eq_right less.le]
      simp

/-- Behind a text, the line counts its line feeds, and the column the bytes behind the last of
them. -/
theorem advance_start (text : Text) :
    advance { line := 1, column := 0 } text.byteLength text =
      { line := text.count '\n' + 1, column := Text.byteLength text.lastLine } := by
  induction text using List.reverseRecOn with
  | nil => rfl
  | append_singleton front char ih =>
      rw [Text.byteLength_append, advance_append, ih]
      by_cases isFeed : char = '\n'
      · have size : Text.byteLength ['\n'] = 0 + 1 := rfl
        rw [isFeed, size, advance_feed, advance_zero, Text.lastLine_concat_feed]
        simp
      · have size : Text.byteLength [char] = char.utf8Size + 0 := rfl
        rw [size, advance_cons isFeed, advance_zero, Text.lastLine_concat isFeed]
        simp [isFeed]

end Location

/-- Where a place is reported: the row counts line feeds, and the column counts bytes. -/
theorem exists_position_eq (text : Text) (remaining : Nat) :
    ∃ front rest extra, text = front ++ rest ∧ Partial extra rest ∧
      Text.byteLength front + extra = text.byteLength - remaining ∧
      (Location.ofRemaining text remaining).position text =
        .ofLineColumn text (front.count '\n' + 1) (Text.byteLength front.lastLine + extra) := by
  obtain ⟨front, rest, extra, rfl, counted, isPartial⟩ :=
    exists_partial (Nat.sub_le text.byteLength remaining)
  refine ⟨front, rest, extra, rfl, isPartial, counted.symm, ?_⟩
  rw [Location.ofRemaining, counted, Location.advance_append, Location.advance_start,
    Location.advance_partial _ isPartial, Location.position]

theorem column_le_of_single {line rest : Text} {extra : Nat} (unbroken : '\n' ∉ line)
    (isPartial : Partial extra rest)
    (single : ∀ char ∈ (line ++ rest).takeWhile (· != '\n'), char.utf8Size = 1) :
    line.byteLength + extra ≤ ((line ++ rest).takeWhile (· != '\n')).length := by
  have kept : ∀ char ∈ line, (char != '\n') = true := by
    intro char listed
    rw [bne_iff_ne]
    rintro rfl
    exact unbroken listed
  rw [List.takeWhile_append_of_pos kept] at single ⊢
  rw [List.forall_mem_append] at single
  have whole : extra = 0 := by
    rcases isPartial with none | ⟨char, more, rfl, less⟩
    · exact none
    · have size : char.utf8Size = 1 := by
        by_cases isFeed : char = '\n'
        · rw [isFeed]
          rfl
        · exact single.2 char (by simp [isFeed])
      omega
  rw [whole, Text.byteLength_eq_length single.1, List.length_append]
  omega

/-- Where a malformed document is reported to be at fault. The row counts the line feeds before the
place at which the reader has stopped, but the column counts bytes: those of the row that have been
consumed, less the last one. So the position names a place in the text, with its character offset
and the row and the column of that offset, exactly if its row has as many characters as the column
says. It does if all characters of the row are ASCII. -/
theorem malformed_names_iff {text : Text} {fault : Fault} {position : Position}
    (failed : parse text = .error (.malformed fault position)) :
    (∃ remaining front rest extra, readDocument text = .error ⟨fault, remaining⟩ ∧
      text = front ++ rest ∧ Partial extra rest ∧
      Text.byteLength front + extra = text.byteLength - remaining ∧
      position.row = front.count '\n' ∧
      position.column = Text.byteLength front.lastLine + extra - 1) ∧
    (position.Names text ↔ position.column ≤ (text.rowText position.row).length) ∧
    ((∀ char ∈ text.rowText position.row, char.utf8Size = 1) → position.Names text) := by
  obtain ⟨remaining, read, rfl⟩ : ∃ remaining, readDocument text = .error ⟨fault, remaining⟩ ∧
      (Location.ofRemaining text remaining).position text = position := by
    rw [parse] at failed
    split at failed
    · cases failed
    · split at failed
      · cases failed
      · next remaining read =>
        cases failed
        exact ⟨remaining, read, rfl⟩
  obtain ⟨front, rest, extra, rfl, isPartial, consumed, located⟩ :=
    exists_position_eq text remaining
  obtain ⟨rows, isRows, divided, unbroken⟩ := front.exists_rows_append_lastLine
  have counted : front.count '\n' = rows.count '\n' := by
    rw [divided]
    exact Text.count_append_of_not_mem rows unbroken
  have whole : front ++ rest = rows ++ (front.lastLine ++ rest) := by
    rw [← List.append_assoc, ← divided]
  have row : Text.rowText (rows.count '\n') (front ++ rest) =
      (front.lastLine ++ rest).takeWhile (· != '\n') := by
    rw [whole, Text.rowText_append isRows]
  have place := Position.ofLineColumn_append isRows (front.lastLine ++ rest)
    (Text.byteLength front.lastLine + extra)
  have names := Position.names_append_iff isRows (front.lastLine ++ rest)
    (Text.byteLength front.lastLine + extra - 1)
  rw [counted, whole, place] at located
  rw [whole, located, ← whole, row]
  rw [← whole] at names
  refine ⟨⟨remaining, front, rest, extra, read, rfl, isPartial, consumed, counted.symm, rfl⟩,
    names, fun single => names.mpr ?_⟩
  exact (Nat.sub_le _ 1).trans (column_le_of_single unbroken isPartial single)

/-- A string of two letters of two bytes each, which does not end: the position that is reported
lies behind the end of the text. -/
theorem malformed_names_iff_of_letters :
    parse "\"\u00e9\u00e9".toList =
      .error (.malformed .endInString { index := 4, row := 0, column := 4 }) ∧
    ¬Position.Names { index := 4, row := 0, column := 4 } "\"\u00e9\u00e9".toList := by
  have failed : parse "\"\u00e9\u00e9".toList =
      .error (.malformed .endInString { index := 4, row := 0, column := 4 }) := by
    cbv
  refine ⟨failed, fun names => ?_⟩
  have short := (malformed_names_iff failed).2.1.mp names
  revert short
  decide

end Reflow.Json
