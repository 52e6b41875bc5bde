import Reflow.Proofs.Text.Ink

/-!
# The edges of a text

A text may start or end with a blank. Trimming leaves alone what does neither. Where two texts meet
without a blank on either side, trimming both of them trims what they are together.
-/

namespace Reflow.Text

/-- A text whose first character, if it has one, is not a blank. -/
def StartsInked (text : Text) : Prop :=
  ∀ char ∈ text.head?, isBlank char = false

/-- A text whose last character, if it has one, is not a blank. -/
def EndsInked (text : Text) : Prop :=
  ∀ char ∈ text.getLast?, isBlank char = false

instance (text : Text) : Decidable (StartsInked text) :=
  decidable_of_iff (text.head?.all fun char => !isBlank char) <| by
    rw [StartsInked]
    cases text.head? <;> simp

instance (text : Text) : Decidable (EndsInked text) :=
  decidable_of_iff (text.getLast?.all fun char => !isBlank char) <| by
    rw [EndsInked]
    cases text.getLast? <;> simp

variable {left right text : Text}

@[simp] theorem startsInked_nil : StartsInked [] := by
  intro char first
  cases first

@[simp] theorem endsInked_nil : EndsInked [] := by
  intro char last
  cases last

@[simp] theorem startsInked_cons_iff {char : Char} {rest : Text} :
    StartsInked (char :: rest) ↔ isBlank char = false := by
  simp [StartsInked]

theorem startsInked_reverse_iff : StartsInked text.reverse ↔ EndsInked text := by
  rw [StartsInked, EndsInked, List.head?_reverse]

theorem endsInked_reverse_iff : EndsInked text.reverse ↔ StartsInked text := by
  rw [StartsInked, EndsInked, List.getLast?_reverse]

/-! ## Edges of an append -/

theorem StartsInked.append (first : StartsInked left) (second : StartsInked right) :
    StartsInked (left ++ right) := by
  cases left with
  | nil => exact second
  | cons char left => simpa using first

/-- The start of a text is the start of whatever is before its end. -/
theorem StartsInked.append_of_ne_nil (notEmpty : left ≠ []) (starts : StartsInked left) :
    StartsInked (left ++ right) := by
  rw [StartsInked, List.head?_append_of_ne_nil _ notEmpty]
  exact starts

theorem StartsInked.of_append (starts : StartsInked (left ++ right)) : StartsInked left := by
  cases left with
  | nil => exact startsInked_nil
  | cons char left => simpa using starts

theorem EndsInked.append (first : EndsInked left) (second : EndsInked right) :
    EndsInked (left ++ right) := by
  rw [← startsInked_reverse_iff] at first second ⊢
  rw [List.reverse_append]
  exact second.append first

theorem EndsInked.of_append (ends : EndsInked (left ++ right)) : EndsInked right := by
  rw [← startsInked_reverse_iff] at ends ⊢
  rw [List.reverse_append] at ends
  exact ends.of_append

/-- The end of a text is the end of whatever is behind its start. -/
theorem EndsInked.append_of_ne_nil (notEmpty : right ≠ []) (ends : EndsInked right) :
    EndsInked (left ++ right) := by
  rw [EndsInked, List.getLast?_append_of_ne_nil _ notEmpty]
  exact ends

theorem Inked.startsInked (inked : Inked text) : StartsInked text := by
  intro char first
  exact inked char (List.mem_of_mem_head? first)

theorem Inked.endsInked (inked : Inked text) : EndsInked text := by
  intro char last
  exact inked char (List.mem_of_getLast? last)

/-! ## Edges and trimming -/

theorem trimStart_eq_self (starts : StartsInked text) : trimStart text = text := by
  cases text with
  | nil => rfl
  | cons char rest =>
      rw [startsInked_cons_iff] at starts
      rw [trimStart, List.dropWhile_cons_of_neg (by simp [starts])]

theorem trimEnd_eq_self (ends : EndsInked text) : trimEnd text = text := by
  rw [trimEnd, trimStart_eq_self (startsInked_reverse_iff.mpr ends), List.reverse_reverse]

theorem trim_eq_self (starts : StartsInked text) (ends : EndsInked text) : trim text = text := by
  rw [trim, trimStart_eq_self starts, trimEnd_eq_self ends]

theorem startsInked_trimStart (text : Text) : StartsInked (trimStart text) := by
  intro char first
  obtain ⟨rest, equal⟩ := List.head?_eq_some_iff.mp first
  exact isBlank_eq_false_of_trimStart equal

theorem endsInked_trimEnd (text : Text) : EndsInked (trimEnd text) := by
  rw [trimEnd, endsInked_reverse_iff]
  exact startsInked_trimStart text.reverse

theorem endsInked_trimStart (ends : EndsInked text) : EndsInked (trimStart text) := by
  obtain ⟨taken, equal, -⟩ := exists_append_trimStart text
  rw [equal] at ends
  exact ends.of_append

theorem startsInked_trim (text : Text) : StartsInked (trim text) := by
  rw [trim, ← trimStart_trimEnd_of_trimStart (trimStart_trimStart text)]
  exact startsInked_trimStart _

theorem endsInked_trim (text : Text) : EndsInked (trim text) :=
  endsInked_trimEnd _

/-- Trimming the start goes no further than to a text that starts with ink. -/
theorem trimStart_append (starts : StartsInked right) :
    trimStart (left ++ right) = trimStart left ++ right := by
  have kept : right.dropWhile isBlank = right := trimStart_eq_self starts
  rw [trimStart, List.dropWhile_append, kept, trimStart]
  split
  · next empty => rw [List.isEmpty_iff.mp empty, List.nil_append]
  · rfl

theorem trimEnd_append (ends : EndsInked left) :
    trimEnd (left ++ right) = left ++ trimEnd right := by
  rw [trimEnd, List.reverse_append, trimStart_append (startsInked_reverse_iff.mpr ends),
    List.reverse_append, List.reverse_reverse, trimEnd]

/-- Trimming two texts that meet without blanks is trimming what they are together. -/
theorem trim_append (ends : EndsInked left) (starts : StartsInked right) :
    trim (left ++ right) = trim left ++ trim right := by
  calc trim (left ++ right)
      = trimEnd (trimStart left ++ right) := by rw [trim, trimStart_append starts]
    _ = trimStart left ++ trimEnd right := trimEnd_append (endsInked_trimStart ends)
    _ = trim left ++ trim right := by
        rw [trim, trim, trimEnd_eq_self (endsInked_trimStart ends), trimStart_eq_self starts]

/-- Trimming the start goes no further than the first ink. -/
theorem trimStart_append_of_inked (inked : left.blank = false) (right : Text) :
    trimStart (left ++ right) = trimStart left ++ right := by
  have stops : (left.dropWhile isBlank).isEmpty = false := by
    rw [← Bool.not_eq_true, List.isEmpty_iff, List.dropWhile_eq_nil_iff]
    intro all
    rw [blank, List.all_eq_true.mpr all] at inked
    cases inked
  rw [trimStart, List.dropWhile_append, stops, if_neg Bool.false_ne_true, trimStart]

theorem blank_reverse (text : Text) : blank text.reverse = text.blank :=
  List.all_reverse

theorem trimEnd_append_of_inked (inked : right.blank = false) (left : Text) :
    trimEnd (left ++ right) = left ++ trimEnd right := by
  rw [← blank_reverse] at inked
  rw [trimEnd, List.reverse_append, trimStart_append_of_inked inked, List.reverse_append,
    List.reverse_reverse, trimEnd]

theorem trimEnd_append_blank {space : Text} (isBlank : space.blank = true) (text : Text) :
    trimEnd (text ++ space) = trimEnd text := by
  rw [← blank_reverse] at isBlank
  rw [trimEnd, List.reverse_append, trimStart_append_of_blank isBlank, trimEnd]

/-- Blanks behind a text do not survive trimming. -/
theorem trim_append_blank {space : Text} (isBlank : space.blank = true) (text : Text) :
    trim (text ++ space) = trim text := by
  cases isBlankToo : text.blank with
  | true =>
      have both : blank (text ++ space) = true := by
        rw [blank_append, isBlankToo, isBlank, Bool.and_self]
      rw [trim_eq_nil_iff.mpr both, trim_eq_nil_iff.mpr isBlankToo]
  | false =>
      rw [trim, trimStart_append_of_inked isBlankToo, trimEnd_append_blank isBlank, trim]

/-! ## Blanks that trimming keeps -/

/-- What starts with ink has ink before each of its blanks. -/
theorem StartsInked.blank_eq_false {char : Char} (starts : StartsInked (left ++ char :: right))
    (isBlank : isBlank char = true) : left.blank = false := by
  cases left with
  | nil =>
      rw [List.nil_append, startsInked_cons_iff, isBlank] at starts
      cases starts
  | cons first left =>
      rw [List.cons_append, startsInked_cons_iff] at starts
      rw [blank, List.all_cons, starts, Bool.false_and]

theorem EndsInked.blank_eq_false {char : Char} (ends : EndsInked (left ++ char :: right))
    (isBlank : Text.isBlank char = true) : right.blank = false := by
  rw [← startsInked_reverse_iff, List.reverse_append, List.reverse_cons, List.append_assoc] at ends
  rw [← blank_reverse]
  exact ends.blank_eq_false isBlank

/-- Trimming keeps the blanks that have ink before and behind them. -/
theorem mem_trim_iff_of_isBlank {char : Char} (isBlank : isBlank char = true) :
    char ∈ trim text ↔
      ∃ before after : Text, text = before ++ char :: after ∧
        before.blank = false ∧ after.blank = false := by
  constructor
  · intro kept
    obtain ⟨left, started, -⟩ := exists_append_trimStart text
    obtain ⟨right, ended, -⟩ := exists_trimEnd_append (trimStart text)
    have starts := startsInked_trim text
    have ends := endsInked_trim text
    have whole : text = left ++ (trim text ++ right) := started.trans (congrArg _ ended)
    obtain ⟨front, back, same⟩ := List.append_of_mem kept
    rw [same] at starts ends whole
    refine ⟨left ++ front, back ++ right, by rw [whole]; simp, ?_, ?_⟩
    · rw [blank_append, starts.blank_eq_false isBlank, Bool.and_false]
    · rw [blank_append, ends.blank_eq_false isBlank, Bool.false_and]
  · rintro ⟨before, after, rfl, inkBefore, inkAfter⟩
    rw [trim, trimStart_append_of_inked inkBefore, List.append_cons,
      trimEnd_append_of_inked inkAfter]
    simp

end Reflow.Text
