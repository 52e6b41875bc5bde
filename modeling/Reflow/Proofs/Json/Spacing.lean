import Reflow.Json.Lexical
import Reflow.Proofs.Text.Edges
import Reflow.Proofs.Text.Lines

/-!
# Parts with blanks between them

A JSON text is a list of parts, the signs and scalars of the document, with blanks before, between
and behind them. Which blanks these are makes no difference to a reader: it skips them before each
part.
-/

namespace Reflow.Json

/-! ## Blanks -/

/-- A text that holds JSON blanks only. -/
def Space (text : Text) : Prop :=
  ∀ char ∈ text, isSpace char = true

/-- JSON knows fewer blanks than Unicode. -/
theorem isBlank_of_isSpace {char : Char} (space : isSpace char = true) :
    Text.isBlank char = true := by
  simp only [isSpace, Bool.or_eq_true, beq_iff_eq] at space
  rcases space with ((rfl | rfl) | rfl) | rfl <;> decide

namespace Space

theorem nil : Space [] :=
  List.forall_mem_nil _

theorem append {left right : Text} (first : Space left) (second : Space right) :
    Space (left ++ right) :=
  List.forall_mem_append.mpr ⟨first, second⟩

theorem blank {space : Text} (isSpace : Space space) : space.blank = true :=
  List.all_eq_true.mpr fun char listed => isBlank_of_isSpace (isSpace char listed)

end Space

/-- The blanks that a reader skips. -/
theorem exists_append_skipSpace (text : Text) :
    ∃ space, Space space ∧ text = space ++ skipSpace text :=
  ⟨text.takeWhile isSpace, List.all_eq_true.mp List.all_takeWhile,
    List.takeWhile_append_dropWhile.symm⟩

/-! ## Parts -/

/-- A text that neither starts nor ends with a blank. -/
structure Solid (part : Text) : Prop where
  starts : ∃ char rest, part = char :: rest ∧ Text.isBlank char = false
  ends : ∃ front char, part = front ++ [char] ∧ Text.isBlank char = false

theorem Solid.of_inked {part : Text} (inked : part.Inked) (notEmpty : part ≠ []) : Solid part where
  starts := by
    obtain ⟨char, others, rfl⟩ := List.exists_cons_of_ne_nil notEmpty
    exact ⟨char, others, rfl, inked char List.mem_cons_self⟩
  ends := ⟨part.dropLast, part.getLast notEmpty, (List.dropLast_append_getLast notEmpty).symm,
    inked _ (List.getLast_mem notEmpty)⟩

namespace Solid

variable {part : Text} (solid : Solid part)
include solid

theorem ne_nil : part ≠ [] := by
  obtain ⟨char, others, rfl, -⟩ := solid.starts
  exact List.cons_ne_nil char others

theorem startsInked : part.StartsInked := by
  obtain ⟨char, others, rfl, inked⟩ := solid.starts
  rw [Text.startsInked_cons_iff]
  exact inked

theorem endsInked : part.EndsInked := by
  obtain ⟨others, char, rfl, inked⟩ := solid.ends
  intro last isLast
  rw [List.getLast?_concat, Option.mem_some_iff] at isLast
  rw [← isLast]
  exact inked

theorem trim_eq : part.trim = part :=
  Text.trim_eq_self solid.startsInked solid.endsInked

theorem dropWhile_append {drops : Char → Bool}
    (blanks : ∀ char, drops char = true → Text.isBlank char = true) (rest : Text) :
    (part ++ rest).dropWhile drops = part ++ rest := by
  obtain ⟨char, others, rfl, inked⟩ := solid.starts
  have kept : drops char = false := by
    rw [Bool.eq_false_iff]
    intro dropped
    rw [blanks char dropped] at inked
    cases inked
  rw [List.cons_append, List.dropWhile_cons_of_neg (by simp [kept])]

end Solid

/-- A text that holds the given parts one after the other, with blanks before, between and behind
them. -/
inductive Spaced : (parts : List Text) → Text → Prop where
  | nil {space : Text} (blank : Space space) : Spaced [] space
  | cons {space part : Text} {parts : List Text} {rest : Text} (blank : Space space)
      (others : Spaced parts rest) : Spaced (part :: parts) (space ++ (part ++ rest))

namespace Spaced

variable {part text space : Text} {parts others : List Text}

theorem start (part : Text) (spaced : Spaced parts text) : Spaced (part :: parts) (part ++ text) :=
  .cons Space.nil spaced

/-- More blanks at the start make no difference. -/
theorem space_append (blank : Space space) (spaced : Spaced parts text) :
    Spaced parts (space ++ text) := by
  cases spaced with
  | nil others => exact .nil (blank.append others)
  | cons others rest =>
      rw [← List.append_assoc]
      exact .cons (blank.append others) rest

theorem append {front back : Text} (first : Spaced parts front) (second : Spaced others back) :
    Spaced (parts ++ others) (front ++ back) := by
  induction first with
  | nil blank => exact second.space_append blank
  | cons blank _ ih =>
      rw [List.append_assoc, List.append_assoc]
      exact .cons blank ih

/-- Fewer blanks at the start make no difference. -/
theorem dropWhile (solid : ∀ part ∈ parts, Solid part) {drops : Char → Bool}
    (blanks : ∀ char, drops char = true → Text.isBlank char = true) (spaced : Spaced parts text) :
    Spaced parts (text.dropWhile drops) := by
  cases spaced with
  | nil blank => exact .nil fun char listed => blank char ((List.dropWhile_subset _) listed)
  | @cons space part parts rest blank spaced =>
      rw [List.dropWhile_append]
      split
      · rw [(solid part List.mem_cons_self).dropWhile_append blanks]
        exact spaced.start part
      · exact .cons (fun char listed => blank char ((List.dropWhile_subset _) listed)) spaced

/-- Behind the blanks that a reader skips there is nothing, or the first part. -/
theorem skipSpace_nil (spaced : Spaced [] text) : skipSpace text = [] := by
  obtain ⟨blank⟩ := spaced
  exact List.dropWhile_eq_nil_iff.mpr blank

theorem skipSpace_cons (solid : Solid part) (spaced : Spaced (part :: parts) text) :
    ∃ rest, skipSpace text = part ++ rest ∧ Spaced parts rest := by
  cases spaced with
  | @cons space _ _ rest blank spaced =>
      refine ⟨rest, ?_, spaced⟩
      rw [skipSpace, List.dropWhile_append_of_pos blank,
        solid.dropWhile_append fun _ => isBlank_of_isSpace]

theorem of_skipSpace (spaced : Spaced parts (skipSpace text)) : Spaced parts text := by
  obtain ⟨space, blank, equal⟩ := exists_append_skipSpace text
  rw [equal]
  exact spaced.space_append blank

/-- What is found behind skipped blanks is the first part. -/
theorem of_skipSpace_eq_append {rest : Text} (skipped : skipSpace text = part ++ rest)
    (spaced : Spaced parts rest) : Spaced (part :: parts) text := by
  apply of_skipSpace
  rw [skipped]
  exact spaced.start part

/-- A text that holds solid parts is not blank. -/
theorem blank_eq_false (spaced : Spaced parts text) (solid : ∀ part ∈ parts, Solid part)
    (notEmpty : parts ≠ []) : text.blank = false := by
  cases spaced with
  | nil => exact absurd rfl notEmpty
  | cons =>
      obtain ⟨char, others, rfl, inked⟩ := (solid _ List.mem_cons_self).starts
      simp [Text.blank, inked]

end Spaced

end Reflow.Json
