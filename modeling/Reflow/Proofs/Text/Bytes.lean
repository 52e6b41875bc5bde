import Reflow.Text.Basic

/-!
# Cuts of a text at a byte offset

An offset lies on the boundary of a character exactly if it is the length of a start of the text.
Cutting there leaves what follows that start, so a walk through a text may add up byte lengths.
-/

namespace Reflow.Text

@[simp] theorem byteLength_nil : byteLength [] = 0 := rfl

@[simp] theorem byteLength_cons (char : Char) (rest : Text) :
    byteLength (char :: rest) = char.utf8Size + byteLength rest := rfl

@[simp] theorem byteLength_append (left right : Text) :
    byteLength (left ++ right) = byteLength left + byteLength right := by
  induction left with
  | nil => simp
  | cons char left ih => simp [ih, Nat.add_assoc]

theorem length_le_byteLength (text : Text) : text.length ≤ text.byteLength := by
  induction text with
  | nil => exact Nat.le_refl 0
  | cons char rest ih =>
      have positive := char.utf8Size_pos
      simp only [List.length_cons, byteLength_cons]
      omega

theorem byteLength_le_four_mul_length (text : Text) : text.byteLength ≤ 4 * text.length := by
  induction text with
  | nil => exact Nat.le_refl 0
  | cons char rest ih =>
      have most := char.utf8Size_le_four
      simp only [List.length_cons, byteLength_cons]
      omega

/-- The bytes of a text are those of its characters. -/
theorem length_flatMap_utf8EncodeChar (text : Text) :
    (text.flatMap String.utf8EncodeChar).length = text.byteLength := by
  induction text with
  | nil => rfl
  | cons char text ih => simp [ih]

/-- A text of characters of one byte each has as many bytes as characters. -/
theorem byteLength_eq_length {text : Text} (single : ∀ char ∈ text, char.utf8Size = 1) :
    text.byteLength = text.length := by
  induction text with
  | nil => rfl
  | cons char rest ih =>
      rw [List.forall_mem_cons] at single
      rw [byteLength_cons, single.1, ih single.2, List.length_cons, Nat.add_comm]

@[simp] theorem dropBytes?_zero (text : Text) : text.dropBytes? 0 = some text := by
  cases text <;> rfl

@[simp] theorem dropBytes?_nil (count : Nat) :
    dropBytes? count [] = if count = 0 then some [] else none := by
  cases count <;> rfl

/-- A cut behind the first character. -/
theorem dropBytes?_cons (count : Nat) (char : Char) (rest : Text) :
    dropBytes? (char.utf8Size + count) (char :: rest) = rest.dropBytes? count := by
  have positive := char.utf8Size_pos
  obtain ⟨before, equal⟩ : ∃ before, char.utf8Size + count = before + 1 :=
    ⟨char.utf8Size + count - 1, by omega⟩
  rw [equal, dropBytes?, if_pos (by omega), ← equal, Nat.add_sub_cancel_left]

/-- A cut behind a start of the text, and `count` bytes more. -/
theorem dropBytes?_append (count : Nat) (before rest : Text) :
    dropBytes? (before.byteLength + count) (before ++ rest) = rest.dropBytes? count := by
  induction before with
  | nil => simp
  | cons char before ih =>
      rw [List.cons_append, byteLength_cons, Nat.add_assoc, dropBytes?_cons]
      exact ih

@[simp] theorem dropBytes?_byteLength (before rest : Text) :
    dropBytes? before.byteLength (before ++ rest) = some rest := by
  simpa using dropBytes?_append 0 before rest

/-- The offsets at which a text can be cut are the lengths of its starts. -/
theorem dropBytes?_eq_some_iff {count : Nat} {text rest : Text} :
    text.dropBytes? count = some rest ↔
      ∃ before, text = before ++ rest ∧ before.byteLength = count := by
  constructor
  · intro cut
    induction text generalizing count with
    | nil =>
        cases count with
        | zero => exact ⟨[], by simpa using cut, rfl⟩
        | succ count => simp at cut
    | cons char others ih =>
        cases count with
        | zero => exact ⟨[], by simpa using cut, rfl⟩
        | succ count =>
            simp only [dropBytes?] at cut
            split at cut
            · next fits =>
              obtain ⟨before, rfl, length⟩ := ih cut
              exact ⟨char :: before, rfl, by simp only [byteLength_cons]; omega⟩
            · simp at cut
  · rintro ⟨before, rfl, rfl⟩
    exact dropBytes?_byteLength before rest

theorem dropBytes?_add {first second : Nat} {text rest : Text}
    (cut : text.dropBytes? first = some rest) :
    text.dropBytes? (first + second) = rest.dropBytes? second := by
  obtain ⟨before, rfl, rfl⟩ := dropBytes?_eq_some_iff.mp cut
  exact dropBytes?_append second before rest

/-- The cut at the end leaves nothing. -/
theorem byteLength_eq_of_dropBytes? {count : Nat} {text rest : Text}
    (cut : text.dropBytes? count = some rest) :
    text.byteLength = count + rest.byteLength := by
  obtain ⟨before, rfl, rfl⟩ := dropBytes?_eq_some_iff.mp cut
  exact byteLength_append before rest

theorem byteLength_eq_zero_iff {text : Text} : text.byteLength = 0 ↔ text = [] := by
  constructor
  · intro zero
    by_cases empty : text = []
    · exact empty
    · exact absurd zero (Nat.ne_of_gt (byteLength_pos empty))
  · rintro rfl
    rfl

end Reflow.Text
