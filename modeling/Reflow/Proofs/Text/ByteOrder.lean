import Reflow.Json.Sort
import Mathlib.Data.UInt
import Mathlib.Tactic.SplitIfs

/-!
# The order of bytes

Texts are compared character by character. That is also the lexicographic order of their UTF-8
encodings: the encoding of a smaller character is smaller at the first byte at which the two differ.
-/

namespace Reflow

namespace Text

/-- The UTF-8 encoding of a text. -/
def bytes (text : Text) : List UInt8 :=
  text.flatMap String.utf8EncodeChar

@[simp] theorem bytes_nil : bytes [] = [] := rfl

@[simp] theorem bytes_cons (char : Char) (text : Text) :
    bytes (char :: text) = String.utf8EncodeChar char ++ bytes text :=
  List.flatMap_cons

/-- The encoding of a smaller character is smaller, whatever follows. -/
theorem encode_append_lt {left right : Char} (less : left.toNat < right.toNat)
    (behindLeft behindRight : List UInt8) :
    String.utf8EncodeChar left ++ behindLeft < String.utf8EncodeChar right ++ behindRight := by
  have bound : right.val.toNat < 0x110000 := by
    rcases right.valid with low | high <;> omega
  have codes : left.val.toNat < right.val.toNat := less
  unfold String.utf8EncodeChar
  generalize left.val.toNat = leftCode at *
  generalize right.val.toNat = rightCode at *
  -- Both encodings have one to four bytes, and the smaller code has no more bytes than the other.
  dsimp only
  split_ifs
  all_goals
    simp only [List.cons_append, List.nil_append, List.cons_lt_cons_iff, UInt8.lt_iff_toNat_lt,
      ← UInt8.toNat_inj, UInt8.toNat_ofNat']
    simp (disch := omega) only [Nat.reducePow, Nat.mod_eq_of_lt]
    omega

end Text

namespace Json

theorem textLe_refl (text : Text) : textLe text text = true := by
  induction text with
  | nil => rfl
  | cons char text ih => simp [textLe, ih]

theorem textLe_total (left right : Text) : (textLe left right || textLe right left) = true := by
  induction left generalizing right with
  | nil => rfl
  | cons first left ih =>
      cases right with
      | nil => rfl
      | cons second right =>
          have others := ih right
          rcases Nat.lt_trichotomy first.toNat second.toNat with less | same | greater
          · simp [textLe, less]
          · obtain rfl : first = second := Char.toNat_inj.mp same
            simpa [textLe] using others
          · simp [textLe, greater]

/-- A text that does not come behind another one is that text, or it has smaller bytes. -/
theorem eq_or_bytes_lt_of_textLe {left right : Text} (le : textLe left right = true) :
    left = right ∨ left.bytes < right.bytes := by
  induction left generalizing right with
  | nil =>
      cases right with
      | nil => exact .inl rfl
      | cons char right =>
          right
          rw [Text.bytes_nil, Text.bytes_cons]
          cases encoded : String.utf8EncodeChar char with
          | nil => exact absurd encoded String.utf8EncodeChar_ne_nil
          | cons byte bytes => exact .nil
  | cons first left ih =>
      cases right with
      | nil => cases le
      | cons second right =>
          simp only [textLe, Bool.or_eq_true, decide_eq_true_eq, Bool.and_eq_true,
            beq_iff_eq] at le
          rcases le with less | ⟨rfl, le⟩
          · right
            simpa using Text.encode_append_lt less (Text.bytes left) (Text.bytes right)
          · rcases ih le with rfl | less
            · exact .inl rfl
            · exact .inr (by simpa using List.append_left_lt less)

theorem textLe_iff {left right : Text} :
    textLe left right = true ↔ left = right ∨ left.bytes < right.bytes := by
  refine ⟨eq_or_bytes_lt_of_textLe, ?_⟩
  rintro (rfl | less)
  · exact textLe_refl left
  · rcases Bool.or_eq_true_iff.mp (textLe_total left right) with le | ge
    · exact le
    · rcases eq_or_bytes_lt_of_textLe ge with rfl | greater
      · exact textLe_refl _
      · exact absurd greater (List.lt_asymm less)

theorem textLe_trans (left middle right : Text) (first : textLe left middle = true)
    (second : textLe middle right = true) : textLe left right = true := by
  rw [textLe_iff] at *
  rcases first with rfl | first
  · exact second
  · rcases second with rfl | second
    · exact .inr first
    · exact .inr (List.lt_trans first second)

end Json

end Reflow
