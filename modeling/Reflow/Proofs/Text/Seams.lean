import Reflow.Proofs.Text.Edges
import Reflow.Proofs.Text.Lines

/-!
# Seams

Line breaks are taken out of a text together with the blanks around them. This may be done piece by
piece, if the text is cut at line breaks or at seams: places without a blank on either side. So it
makes no difference whether the lines were compressed or collapsed before, and a break with blanks
around it is as good as none.
-/

namespace Reflow.Text

/-- What holds of texts without line breaks, and of a text whenever it holds of what is before and
behind one of its line breaks, holds of all texts. -/
@[elab_as_elim]
theorem inductBreaks {motive : Text → Prop} (isBreak : Char → Bool)
    (whole : ∀ text, (∀ char ∈ text, isBreak char = false) → motive text)
    (broken : ∀ front char back, isBreak char = true → motive front → motive back →
      motive (front ++ char :: back))
    (text : Text) : motive text := by
  induction size : text.length using Nat.strongRecOn generalizing text with
  | ind length ih =>
      by_cases breaks : ∃ char ∈ text, isBreak char = true
      · obtain ⟨char, listed, isBreakChar⟩ := breaks
        obtain ⟨front, back, rfl⟩ := List.append_of_mem listed
        rw [List.length_append, List.length_cons] at size
        apply broken front char back isBreakChar
        · exact ih front.length (by omega) front rfl
        · exact ih back.length (by omega) back rfl
      · apply whole
        intro char listed
        rw [← Bool.not_eq_true]
        intro isBreakChar
        exact breaks ⟨char, listed, isBreakChar⟩

variable {isBreak : Char → Bool}

/-! ## Blanks at the end -/

theorem blank_of_append_cons {front back : Text} {char : Char}
    (isBlank : blank (front ++ char :: back) = true) :
    front.blank = true ∧ back.blank = true := by
  rw [List.append_cons, blank_append, blank_append, Bool.and_eq_true, Bool.and_eq_true] at isBlank
  exact ⟨isBlank.1.1, isBlank.2⟩

theorem withoutBreaks_blank {space : Text} (isBlank : space.blank = true) :
    withoutBreaks isBreak space = [] := by
  have nothing : withoutBreaks isBreak [] = [] := rfl
  rw [← nothing, ← withoutBreaks_blank_append isBlank [], List.append_nil]

/-- Blanks at the end are trimmed, and line breaks among them taken out. -/
theorem withoutBreaks_append_blank {space : Text} (isBlank : space.blank = true) (text : Text) :
    withoutBreaks isBreak (text ++ space) = withoutBreaks isBreak text := by
  induction text using inductBreaks isBreak with
  | broken front char back breaks _ behind =>
      rw [List.append_assoc, List.cons_append, withoutBreaks_append_cons breaks, behind,
        withoutBreaks_append_cons breaks]
  | whole text unbroken =>
      induction space using inductBreaks isBreak with
      | broken front char back breaks before _ =>
          obtain ⟨blankBefore, blankBehind⟩ := blank_of_append_cons isBlank
          rw [← List.append_assoc, withoutBreaks_append_cons breaks, before blankBefore,
            withoutBreaks_blank blankBehind, List.append_nil]
      | whole space spaceUnbroken =>
          have both : ∀ char ∈ text ++ space, isBreak char = false :=
            List.forall_mem_append.mpr ⟨unbroken, spaceUnbroken⟩
          rw [withoutBreaks_of_not_mem both, withoutBreaks_of_not_mem unbroken,
            trim_append_blank isBlank]

theorem withoutBreaks_trim (text : Text) :
    withoutBreaks isBreak (trim text) = withoutBreaks isBreak text := by
  obtain ⟨before, started, blankBefore⟩ := exists_append_trimStart text
  obtain ⟨behind, ended, blankBehind⟩ := exists_trimEnd_append (trimStart text)
  conv_rhs => rw [started, withoutBreaks_blank_append blankBefore, ended]
  rw [withoutBreaks_append_blank blankBehind, trim]

/-! ## Seams -/

/-- A text may be cut at a seam. -/
theorem withoutBreaks_append {left right : Text} (ends : EndsInked left)
    (starts : StartsInked right) :
    withoutBreaks isBreak (left ++ right) =
      withoutBreaks isBreak left ++ withoutBreaks isBreak right := by
  induction left using inductBreaks isBreak with
  | broken front char back breaks _ behind =>
      rw [List.append_cons] at ends
      rw [List.append_assoc, List.cons_append, withoutBreaks_append_cons breaks,
        behind ends.of_append, withoutBreaks_append_cons breaks, List.append_assoc]
  | whole left leftUnbroken =>
      induction right using inductBreaks isBreak with
      | broken front char back breaks before _ =>
          rw [← List.append_assoc, withoutBreaks_append_cons breaks, before starts.of_append,
            withoutBreaks_append_cons breaks, List.append_assoc]
      | whole right rightUnbroken =>
          have both : ∀ char ∈ left ++ right, isBreak char = false :=
            List.forall_mem_append.mpr ⟨leftUnbroken, rightUnbroken⟩
          rw [withoutBreaks_of_not_mem both, withoutBreaks_of_not_mem leftUnbroken,
            withoutBreaks_of_not_mem rightUnbroken, trim_append ends starts]

/-- Blanks with a line break among them are as good as a seam. -/
theorem withoutBreaks_append_space {space : Text} (isBlank : space.blank = true)
    (breaks : ∃ char ∈ space, isBreak char = true) (left right : Text) :
    withoutBreaks isBreak (left ++ space ++ right) =
      withoutBreaks isBreak left ++ withoutBreaks isBreak right := by
  obtain ⟨char, listed, breaks⟩ := breaks
  obtain ⟨front, back, rfl⟩ := List.append_of_mem listed
  obtain ⟨blankBefore, blankBehind⟩ := blank_of_append_cons isBlank
  calc withoutBreaks isBreak (left ++ (front ++ char :: back) ++ right)
      = withoutBreaks isBreak ((left ++ front) ++ char :: (back ++ right)) := by simp
    _ = withoutBreaks isBreak (left ++ front) ++ withoutBreaks isBreak (back ++ right) :=
        withoutBreaks_append_cons breaks _ _
    _ = withoutBreaks isBreak left ++ withoutBreaks isBreak right := by
        rw [withoutBreaks_append_blank blankBefore, withoutBreaks_blank_append blankBehind]

theorem withoutBreaks_joinWith {separator : Text} (isBlank : separator.blank = true)
    (breaks : ∃ char ∈ separator, isBreak char = true) {lines : List Text}
    (unbroken : ∀ line ∈ lines, ∀ char ∈ line, isBreak char = false) :
    withoutBreaks isBreak (joinWith separator lines) = (lines.map trim).flatten := by
  induction lines with
  | nil => rfl
  | cons line lines ih =>
      rw [List.forall_mem_cons] at unbroken
      by_cases more : lines = []
      · rw [more, joinWith, withoutBreaks_of_not_mem unbroken.1, List.map_singleton,
          List.flatten_singleton]
      · rw [joinWith_cons more, withoutBreaks_append_space isBlank breaks,
          withoutBreaks_of_not_mem unbroken.1, ih unbroken.2, List.map_cons, List.flatten_cons]

theorem startsInked_flatten_trim (texts : List Text) : StartsInked (texts.map trim).flatten := by
  rw [← trimStart_flatten_trim]
  exact startsInked_trimStart _

theorem endsInked_flatten_trim (texts : List Text) : EndsInked (texts.map trim).flatten := by
  induction texts with
  | nil => exact endsInked_nil
  | cons text texts ih => exact (endsInked_trim text).append ih

/-- Trimmed texts in a row may be taken one by one. -/
theorem withoutBreaks_flatten_trim (texts : List Text) :
    withoutBreaks isBreak (texts.map trim).flatten =
      (texts.map (withoutBreaks isBreak)).flatten := by
  induction texts with
  | nil => rfl
  | cons text texts ih =>
      rw [List.map_cons, List.flatten_cons,
        withoutBreaks_append (endsInked_trim text) (startsInked_flatten_trim texts), ih,
        withoutBreaks_trim, List.map_cons, List.flatten_cons]

/-! ## Some line breaks before others -/

/-- A text may be cut at some of its line breaks first. -/
theorem flatten_withoutBreaks_splitAt {isFeed : Char → Bool}
    (feedBreaks : ∀ char, isFeed char = true → isBreak char = true) (text : Text) :
    ((splitAt isFeed text).map (withoutBreaks isBreak)).flatten = withoutBreaks isBreak text := by
  induction text using inductBreaks isFeed with
  | whole text unbroken => simp [splitAt_of_not_mem unbroken]
  | broken front char back feeds before behind =>
      rw [splitAt_append_cons feeds, List.map_append, List.flatten_append, before, behind,
        withoutBreaks_append_cons (feedBreaks char feeds)]

/-- Line feeds may be taken out before the other line breaks. -/
theorem unbroken_collapse (text : Text) : text.collapse.unbroken = text.unbroken := by
  have feedBreaks : ∀ char, (char == '\n') = true → isLineBreak char = true := by
    intro char isFeed
    rw [isLineBreak, isFeed, Bool.true_or]
  rw [collapse, withoutBreaks, unbroken, withoutBreaks_flatten_trim,
    flatten_withoutBreaks_splitAt feedBreaks]

/-! ## Compressed lines -/

/-- The lines of a text, each without the blanks at its ends. Blank lines are left out. -/
def trimmedLines (text : Text) : List Text :=
  ((splitAt isLineBreak text).map trim).filter fun line => !line.isEmpty

theorem compress_eq (text : Text) : text.compress = joinWith ['\n'] text.trimmedLines := rfl

theorem of_mem_trimmedLines {text line : Text} (listed : line ∈ text.trimmedLines) :
    trim line = line ∧ line ≠ [] ∧ ∀ char ∈ line, isLineBreak char = false := by
  obtain ⟨mapped, notEmpty⟩ := List.mem_filter.mp listed
  obtain ⟨segment, inSplit, rfl⟩ := List.mem_map.mp mapped
  refine ⟨trim_trim segment, by simpa using notEmpty, ?_⟩
  intro char within
  obtain ⟨before, started, -⟩ := exists_append_trimStart segment
  obtain ⟨behind, ended, -⟩ := exists_trimEnd_append (trimStart segment)
  apply isBreak_eq_false_of_mem_splitAt inSplit
  rw [started, ended]
  exact List.mem_append_right _ (List.mem_append_left _ within)

theorem map_trim_trimmedLines (text : Text) : text.trimmedLines.map trim = text.trimmedLines := by
  rw [List.map_congr_left fun line listed => (of_mem_trimmedLines listed).1, List.map_id']

/-- Blank lines leave nothing. -/
theorem flatten_trimmedLines (text : Text) : text.trimmedLines.flatten = text.unbroken := by
  rw [trimmedLines, List.flatten_filter_not_isEmpty]
  rfl

theorem unbroken_compress (text : Text) : text.compress.unbroken = text.unbroken := by
  have isBlank : blank ['\n'] = true := by decide
  have breaks : ∃ char ∈ ['\n'], isLineBreak char = true := ⟨'\n', by decide, by decide⟩
  rw [compress_eq, unbroken, withoutBreaks_joinWith isBlank breaks
    fun line listed => (of_mem_trimmedLines listed).2.2, map_trim_trimmedLines,
    flatten_trimmedLines]

theorem compress_of_compress (text : Text) : text.compress.compress = text.compress := by
  by_cases nothing : text.trimmedLines = []
  · rw [compress_eq text, nothing]
    rfl
  · have split : splitAt isLineBreak text.compress = text.trimmedLines :=
      splitAt_joinWith rfl nothing fun line listed => (of_mem_trimmedLines listed).2.2
    have kept : (text.trimmedLines.filter fun line => !line.isEmpty) = text.trimmedLines := by
      rw [List.filter_eq_self]
      intro line listed
      simpa using (of_mem_trimmedLines listed).2.1
    rw [compress_eq text.compress, trimmedLines, split, map_trim_trimmedLines, kept, compress_eq]

theorem trim_collapse (text : Text) : trim text.collapse = text.collapse :=
  trim_eq_self (startsInked_flatten_trim _) (endsInked_flatten_trim _)

theorem collapse_of_collapse (text : Text) : text.collapse.collapse = text.collapse := by
  have noFeed : ∀ char ∈ text.collapse, (char == '\n') = false :=
    isBreak_eq_false_of_mem_withoutBreaks
  calc text.collapse.collapse
      = trim text.collapse := withoutBreaks_of_not_mem noFeed
    _ = text.collapse := trim_collapse text

end Reflow.Text
