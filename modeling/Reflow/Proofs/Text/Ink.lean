import Reflow.Text.Blank
import Mathlib.Data.List.DropRight
import Mathlib.Data.List.TakeWhile

/-!
# The ink of a text

The characters of a text that are not blank are its ink. Trimming takes blanks only, so it leaves
the ink alone.
-/

namespace Reflow.Text

/-- The characters of a text that are not blank. -/
def ink (text : Text) : Text :=
  text.filter fun char => !isBlank char

/-- A text that holds no blanks. -/
def Inked (text : Text) : Prop :=
  ∀ char ∈ text, isBlank char = false

@[simp] theorem ink_nil : ink [] = [] := rfl

@[simp] theorem ink_append (left right : Text) : ink (left ++ right) = ink left ++ ink right :=
  List.filter_append ..

@[simp] theorem ink_flatten (texts : List Text) : ink texts.flatten = (texts.map ink).flatten :=
  List.filter_flatten ..

theorem ink_cons_of_blank {char : Char} (isBlank : isBlank char = true) (rest : Text) :
    ink (char :: rest) = ink rest := by
  simp [ink, isBlank]

/-- Only blanks have no ink. -/
theorem ink_eq_nil_iff {text : Text} : ink text = [] ↔ text.blank = true := by
  simp [ink, blank]

theorem length_ink_le (text : Text) : (ink text).length ≤ text.length :=
  List.length_filter_le ..

theorem blank_append {left right : Text} :
    blank (left ++ right) = (left.blank && right.blank) :=
  List.all_append

/-! ## Texts without blanks -/

namespace Inked

theorem nil : Inked [] := by
  intro char member
  cases member

/-- Where there is ink, there is no blank text. -/
theorem blank_eq_false {text : Text} (inked : Inked text) (notEmpty : text ≠ []) :
    text.blank = false := by
  cases text with
  | nil => exact absurd rfl notEmpty
  | cons char rest => simp [blank, inked char List.mem_cons_self]

end Inked

/-! ## Trimming -/

/-- The blanks that trimming takes from the start of a text. -/
theorem exists_append_trimStart (text : Text) :
    ∃ taken : Text, text = taken ++ trimStart text ∧ taken.blank = true :=
  ⟨text.takeWhile isBlank, List.takeWhile_append_dropWhile.symm, List.all_takeWhile⟩

/-- The blanks that trimming takes from the end of a text. -/
theorem exists_trimEnd_append (text : Text) :
    ∃ taken : Text, text = trimEnd text ++ taken ∧ taken.blank = true := by
  obtain ⟨taken, equal, isBlank⟩ := exists_append_trimStart text.reverse
  refine ⟨taken.reverse, ?_, ?_⟩
  · rw [trimEnd, ← List.reverse_append, ← equal, List.reverse_reverse]
  · rw [blank, List.all_reverse]
    exact isBlank

@[simp] theorem ink_trimStart (text : Text) : ink (trimStart text) = ink text := by
  obtain ⟨taken, equal, isBlank⟩ := exists_append_trimStart text
  conv_rhs => rw [equal]
  rw [ink_append, ink_eq_nil_iff.mpr isBlank, List.nil_append]

@[simp] theorem ink_trimEnd (text : Text) : ink (trimEnd text) = ink text := by
  obtain ⟨taken, equal, isBlank⟩ := exists_trimEnd_append text
  conv_rhs => rw [equal]
  rw [ink_append, ink_eq_nil_iff.mpr isBlank, List.append_nil]

@[simp] theorem ink_trim (text : Text) : ink (trim text) = ink text := by
  simp [trim]

/-- A text that trimming leaves empty holds blanks only. -/
theorem trim_eq_nil_iff {text : Text} : trim text = [] ↔ text.blank = true := by
  constructor
  · intro empty
    rw [← ink_eq_nil_iff, ← ink_trim, empty, ink_nil]
  · intro isBlank
    have started : trimStart text = [] := by
      rw [trimStart, List.dropWhile_eq_nil_iff]
      simpa [blank] using isBlank
    rw [trim, started]
    rfl

/-- The first character behind the blanks at the start is none of them. -/
theorem isBlank_eq_false_of_trimStart {text : Text} {char : Char} {rest : Text}
    (equal : trimStart text = char :: rest) : isBlank char = false := by
  have first := List.head?_dropWhile_not isBlank text
  rw [show text.dropWhile isBlank = char :: rest from equal] at first
  simpa using first

/-- Blanks before a text do not survive trimming. -/
theorem trimStart_append_of_blank {taken : Text} (isBlank : taken.blank = true) (rest : Text) :
    trimStart (taken ++ rest) = trimStart rest := by
  rw [trimStart, List.dropWhile_append_of_pos (by simpa [blank] using isBlank), trimStart]

theorem trim_append_of_blank {taken : Text} (isBlank : taken.blank = true) (rest : Text) :
    trim (taken ++ rest) = trim rest := by
  rw [trim, trimStart_append_of_blank isBlank, trim]

@[simp] theorem trimStart_trimStart (text : Text) :
    trimStart (trimStart text) = trimStart text :=
  List.dropWhile_idempotent ..

@[simp] theorem trimEnd_trimEnd (text : Text) : trimEnd (trimEnd text) = trimEnd text :=
  List.rdropWhile_idempotent ..

/-- Trimming the end of a text that starts with ink does not uncover blanks at its start. -/
theorem trimStart_trimEnd_of_trimStart {text : Text} (trimmed : trimStart text = text) :
    trimStart (trimEnd text) = trimEnd text := by
  obtain ⟨taken, equal, -⟩ := exists_trimEnd_append text
  cases start : trimEnd text with
  | nil => rfl
  | cons char rest =>
      rw [start, List.cons_append] at equal
      have inked : isBlank char = false :=
        isBlank_eq_false_of_trimStart (trimmed.trans equal)
      simp [trimStart, inked]

@[simp] theorem trim_trim (text : Text) : trim (trim text) = trim text := by
  rw [trim, trim, trimStart_trimEnd_of_trimStart (trimStart_trimStart text), trimEnd_trimEnd]

end Reflow.Text
