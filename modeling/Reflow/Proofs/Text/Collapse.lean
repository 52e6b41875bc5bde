import Reflow.Proofs.Text.Position
import Reflow.Proofs.Text.Seams

/-!
# Breaks that collapsing leaves

Compressing knows two line breaks, the line feed and the carriage return, and collapsing only the
first of them. A carriage return goes with the blanks at the end of a line, or stays inside of it.
Where none stays, a collapsed text is the compressed text without its line feeds, and where some
stay they are all that tells the two apart.
-/

namespace Reflow.Text

variable {char : Char} {text : Text}

/-! ## Lines around a place -/

theorem takeWhile_append_feed (front back : Text) :
    (front ++ '\n' :: back).takeWhile (· != '\n') = front.takeWhile (· != '\n') := by
  induction front with
  | nil => rfl
  | cons char front ih => simp only [List.cons_append, List.takeWhile_cons, ih]

theorem lastLine_append_feed (front back : Text) :
    lastLine (front ++ '\n' :: back) = lastLine back := by
  rw [lastLine, List.reverse_append, List.reverse_cons, List.append_assoc, List.singleton_append,
    takeWhile_append_feed, lastLine]

theorem takeWhile_of_not_mem (unbroken : '\n' ∉ text) : text.takeWhile (· != '\n') = text := by
  have alone := @takeWhile_append_of_cut '\n' text [] unbroken (by simp)
  rwa [List.append_nil] at alone

theorem lastLine_of_not_mem (unbroken : '\n' ∉ text) : lastLine text = text :=
  @lastLine_append [] text (absurd rfl) unbroken

theorem collapse_append_feed (front back : Text) :
    collapse (front ++ '\n' :: back) = front.collapse ++ back.collapse :=
  @withoutBreaks_append_cons (· == '\n') '\n' rfl front back

/-! ## Blanks that stay -/

/-- A place with ink before it and ink behind it on the same line. -/
def Surrounded (before after : Text) : Prop :=
  before.lastLine.blank = false ∧ Text.blank (after.takeWhile (· != '\n')) = false

/-- Only the line around a place matters. -/
theorem surrounded_append_feed_iff {before after back : Text} :
    Surrounded before (after ++ '\n' :: back) ↔ Surrounded before after := by
  rw [Surrounded, takeWhile_append_feed, Surrounded]

theorem surrounded_feed_append_iff {before after front : Text} :
    Surrounded (front ++ '\n' :: before) after ↔ Surrounded before after := by
  rw [Surrounded, lastLine_append_feed, Surrounded]

/-- The places of a character, other than a line feed, are before a line feed or behind it. -/
theorem append_feed_eq_iff {front back before after : Text} (other : char ≠ '\n') :
    front ++ '\n' :: back = before ++ char :: after ↔
      (∃ rest, front = before ++ char :: rest ∧ after = rest ++ '\n' :: back) ∨
        ∃ rest, back = rest ++ char :: after ∧ before = front ++ '\n' :: rest := by
  constructor
  · intro same
    rcases List.append_eq_append_iff.mp same with ⟨middle, rfl, split⟩ | ⟨middle, rfl, split⟩
    · cases middle with
      | nil => exact absurd (List.cons.inj split).1.symm other
      | cons first rest =>
          obtain ⟨rfl, rfl⟩ := List.cons.inj split
          exact .inr ⟨rest, rfl, rfl⟩
    · cases middle with
      | nil => exact absurd (List.cons.inj split).1 other
      | cons first rest =>
          obtain ⟨rfl, rfl⟩ := List.cons.inj split
          exact .inl ⟨rest, rfl, rfl⟩
  · rintro (⟨rest, rfl, rfl⟩ | ⟨rest, rfl, rfl⟩) <;> simp

/-- A collapsed text keeps a blank, other than a line feed, where it has ink before it and behind it
on its line. -/
theorem mem_collapse_iff (isBlank : isBlank char = true) (other : char ≠ '\n') (text : Text) :
    char ∈ text.collapse ↔
      ∃ before after, text = before ++ char :: after ∧ Surrounded before after := by
  induction text using inductBreaks (· == '\n') with
  | whole text unbroken =>
      have noFeed : '\n' ∉ text := fun listed => by simpa using unbroken '\n' listed
      rw [collapse, withoutBreaks_of_not_mem unbroken, mem_trim_iff_of_isBlank isBlank]
      refine exists₂_congr fun before after => and_congr_right ?_
      rintro rfl
      rw [List.mem_append, List.mem_cons, not_or, not_or] at noFeed
      rw [Surrounded, lastLine_of_not_mem noFeed.1, takeWhile_of_not_mem noFeed.2.2]
  | broken front feed back isFeed inFront inBack =>
      obtain rfl : feed = '\n' := eq_of_beq isFeed
      rw [collapse_append_feed, List.mem_append, inFront, inBack]
      constructor
      · rintro (⟨before, after, rfl, surrounded⟩ | ⟨before, after, rfl, surrounded⟩)
        · exact ⟨before, after ++ '\n' :: back, by simp, surrounded_append_feed_iff.mpr surrounded⟩
        · exact ⟨front ++ '\n' :: before, after, by simp,
            surrounded_feed_append_iff.mpr surrounded⟩
      · rintro ⟨before, after, same, surrounded⟩
        rcases (append_feed_eq_iff other).mp same with ⟨rest, rfl, rfl⟩ | ⟨rest, rfl, rfl⟩
        · exact .inl ⟨before, rest, rfl, surrounded_append_feed_iff.mp surrounded⟩
        · exact .inr ⟨rest, after, rfl, surrounded_feed_append_iff.mp surrounded⟩

/-! ## Collapsed and compressed texts -/

theorem feed_not_mem_collapse (text : Text) : '\n' ∉ text.collapse := fun listed => by
  simpa using isBreak_eq_false_of_mem_withoutBreaks '\n' listed

/-- A separator that no line holds stands only between the lines. -/
theorem filter_joinWith {separator : Char} {lines : List Text}
    (absent : ∀ line ∈ lines, separator ∉ line) :
    (joinWith [separator] lines).filter (· != separator) = lines.flatten := by
  have kept {line : Text} (outside : separator ∉ line) : line.filter (· != separator) = line := by
    rw [List.filter_eq_self]
    intro char within
    rw [bne_iff_ne]
    rintro rfl
    exact outside within
  induction lines with
  | nil => rfl
  | cons line lines ih =>
      rw [List.forall_mem_cons] at absent
      by_cases more : lines = []
      · rw [more, joinWith, kept absent.1, List.flatten_singleton]
      · rw [joinWith_cons more, List.filter_append, List.filter_append, kept absent.1,
          ih absent.2, List.filter_cons_of_neg (by simp), List.filter_nil, List.append_nil,
          List.flatten_cons]

/-- The line feeds of a compressed text are those between its lines. -/
theorem filter_compress (text : Text) : text.compress.filter (· != '\n') = text.unbroken := by
  have absent : ∀ line ∈ text.trimmedLines, '\n' ∉ line := by
    intro line listed within
    cases (of_mem_trimmedLines listed).2.2 '\n' within
  rw [compress_eq, filter_joinWith absent, flatten_trimmedLines]

/-- Collapsing has taken out all line breaks if it has left no carriage return. -/
theorem collapse_eq_unbroken_iff (text : Text) :
    text.collapse = text.unbroken ↔ '\r' ∉ text.collapse := by
  constructor
  · intro same listed
    rw [same] at listed
    cases isBreak_eq_false_of_mem_withoutBreaks '\r' listed
  · intro noReturn
    have noBreak : ∀ char ∈ text.collapse, isLineBreak char = false := by
      intro char listed
      rw [isLineBreak, Bool.or_eq_false_iff, beq_eq_false_iff_ne, beq_eq_false_iff_ne]
      constructor
      · rintro rfl
        exact feed_not_mem_collapse text listed
      · rintro rfl
        exact noReturn listed
    calc text.collapse
        = trim text.collapse := (trim_collapse text).symm
      _ = text.collapse.unbroken := (withoutBreaks_of_not_mem noBreak).symm
      _ = text.unbroken := unbroken_collapse text

/-- What collapsing and compressing have in common. A collapsed text holds no line feed, and without
the line breaks that it still holds it is the compressed text without its line feeds. It holds none
and is that text itself exactly if no carriage return of the text is surrounded by ink on its line,
where only line feeds end a line. -/
theorem collapse_eq_compress_iff (text : Text) :
    '\n' ∉ text.collapse ∧
    text.collapse.withoutBreaks isLineBreak = text.compress.filter (· != '\n') ∧
    (('\r' ∉ text.collapse ∧ text.collapse = text.compress.filter (· != '\n')) ↔
      ∀ before after, text = before ++ '\r' :: after → ¬ Surrounded before after) := by
  refine ⟨feed_not_mem_collapse text, ?_, ?_⟩
  · rw [filter_compress]
    exact unbroken_collapse text
  · have stays := mem_collapse_iff (by decide : isBlank '\r' = true) (by decide) text
    rw [filter_compress, collapse_eq_unbroken_iff, and_self, stays]
    simp only [not_exists, not_and]

/-- A carriage return between two letters is left, and one before a line feed is not. -/
example : collapse ['a', '\r', 'b', '\r', '\n', 'c'] = ['a', '\r', 'b', 'c'] := by decide

end Reflow.Text
