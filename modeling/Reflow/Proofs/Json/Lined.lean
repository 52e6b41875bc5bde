import Reflow.Proofs.Json.Spacing

/-!
# Parts on lines

A document may be taken line by line if no part of it goes over the end of a line. Trimming the
lines, dropping blank ones and joining them again with blanks between them, or with nothing, gives a
text that holds the same parts.
-/

namespace Reflow.Json

/-! ## Trimmed texts -/

namespace Spaced

variable {parts : List Text} {text : Text}

theorem trimEnd (spaced : Spaced parts text) (solid : ∀ part ∈ parts, Solid part) :
    Spaced parts text.trimEnd := by
  induction spaced with
  | @nil space blank =>
      rw [← List.nil_append space, Text.trimEnd_append_blank blank.blank]
      exact .nil Space.nil
  | @cons space part parts rest blank _ ih =>
      rw [List.forall_mem_cons] at solid
      have ends : Text.EndsInked (space ++ part) :=
        solid.1.endsInked.append_of_ne_nil solid.1.ne_nil
      rw [← List.append_assoc, Text.trimEnd_append ends, List.append_assoc]
      exact .cons blank (ih solid.2)

theorem trim (spaced : Spaced parts text) (solid : ∀ part ∈ parts, Solid part) :
    Spaced parts text.trim :=
  (spaced.dropWhile solid fun _ => id).trimEnd solid

end Spaced

/-! ## Lines -/

/-- Lines that hold parts one after the other, none of which goes over the end of a line. -/
inductive Lined : (parts lines : List Text) → Prop where
  | nil : Lined [] []
  | cons {front others : List Text} {line : Text} {lines : List Text} (spaced : Spaced front line)
      (lined : Lined others lines) : Lined (front ++ others) (line :: lines)

variable {isBreak : Char → Bool} {part line space text : Text} {parts lines : List Text}

namespace Lined

theorem space_append (blank : Space space) (lined : Lined parts (line :: lines)) :
    Lined parts ((space ++ line) :: lines) := by
  cases lined with
  | cons spaced others => exact .cons (spaced.space_append blank) others

theorem part_append (part : Text) (lined : Lined parts (line :: lines)) :
    Lined (part :: parts) ((part ++ line) :: lines) := by
  cases lined with
  | cons spaced others => exact .cons (spaced.start part) others

/-- An empty line in front holds no part. -/
theorem turn (lined : Lined parts lines) : Lined parts ([] :: lines) :=
  .cons (.nil Space.nil) lined

theorem map_trim (solid : ∀ part ∈ parts, Solid part) (lined : Lined parts lines) :
    Lined parts (lines.map Text.trim) := by
  induction lined with
  | nil => exact .nil
  | cons spaced _ ih =>
      rw [List.forall_mem_append] at solid
      exact .cons (spaced.trim solid.1) (ih solid.2)

/-- No part is on a blank line, so lines may be left out if they are blank. -/
theorem filter {keeps : Text → Bool} (blanks : ∀ line, keeps line = false → line.blank = true)
    (solid : ∀ part ∈ parts, Solid part) (lined : Lined parts lines) :
    Lined parts (lines.filter keeps) := by
  induction lined with
  | nil => exact .nil
  | @cons front others line lines spaced _ ih =>
      rw [List.forall_mem_append] at solid
      cases kept : keeps line with
      | true => simpa [kept] using .cons spaced (ih solid.2)
      | false =>
          have empty : front = [] := by
            by_contra notEmpty
            have isBlank := blanks line kept
            rw [spaced.blank_eq_false solid.1 notEmpty] at isBlank
            cases isBlank
          simpa [kept, empty] using ih solid.2

theorem flatten (lined : Lined parts lines) : Spaced parts lines.flatten := by
  induction lined with
  | nil => exact .nil Space.nil
  | cons spaced _ ih => exact spaced.append ih

theorem joinWith {separator : Text} (blank : Space separator) (lined : Lined parts lines) :
    Spaced parts (Text.joinWith separator lines) := by
  induction lined with
  | nil => exact .nil Space.nil
  | @cons front others line lines spaced lined ih =>
      by_cases more : lines = []
      · subst more
        cases lined with
        | nil => simpa [Text.joinWith] using spaced
      · rw [Text.joinWith_cons more, List.append_assoc]
        exact spaced.append (ih.space_append blank)

end Lined

/-! ## The lines of a text -/

/-- Blanks are on the lines around them, whether there are breaks among them or not. -/
theorem Lined.splitAt_append (blank : Space space)
    (lined : Lined parts (Text.splitAt isBreak text)) :
    Lined parts (Text.splitAt isBreak (space ++ text)) := by
  induction space with
  | nil => exact lined
  | cons char space ih =>
      rw [Space, List.forall_mem_cons] at blank
      have behind := ih blank.2
      cases breaks : isBreak char with
      | true =>
          have divided := @Text.splitAt_append_cons _ _ breaks [] (space ++ text)
          rw [List.nil_append] at divided
          rw [List.cons_append, divided]
          exact behind.turn
      | false =>
          rw [List.cons_append, ← List.singleton_append,
            Text.splitAt_append_of_not_mem (List.forall_mem_singleton.mpr breaks)]
          exact behind.space_append (List.forall_mem_singleton.mpr blank.1)

/-- A text may be taken line by line if its parts hold no line breaks. -/
theorem Spaced.lined (spaced : Spaced parts text)
    (unbroken : ∀ part ∈ parts, ∀ char ∈ part, isBreak char = false) :
    Lined parts (Text.splitAt isBreak text) := by
  induction spaced with
  | @nil space blank =>
      have nothing : Lined [] (Text.splitAt isBreak []) := Lined.nil.turn
      rw [← List.append_nil space]
      exact nothing.splitAt_append blank
  | @cons space part parts rest blank _ ih =>
      rw [List.forall_mem_cons] at unbroken
      apply Lined.splitAt_append blank
      rw [Text.splitAt_append_of_not_mem unbroken.1]
      exact (ih unbroken.2).part_append part

end Reflow.Json
