import Mathlib
import Reflow.Json.Document
import Reflow.Proofs.Json.Lined
import Reflow.Proofs.Json.Reading
import Reflow.Proofs.Text.Collapse

/-!
# Documents without line breaks

Taking the line breaks out of a text, together with the blanks around them, takes blanks from
between the parts of a document and nothing from inside of a part. The text still holds the parts,
and so it does if its lines are trimmed and joined again. Hence neither collapsing nor compressing
changes what a document means.
-/

namespace Reflow.Json

variable {isBreak : Char → Bool} {text : Text} {parts : List Text} {value : Value}

/-! ## Documents line by line -/

/-- A text that holds the parts of a document still does without its line breaks. -/
theorem Spaced.withoutBreaks (spaced : Spaced parts text) (solid : ∀ part ∈ parts, Solid part)
    (unbroken : ∀ part ∈ parts, ∀ char ∈ part, isBreak char = false) :
    Spaced parts (Text.withoutBreaks isBreak text) :=
  ((spaced.lined unbroken).map_trim solid).flatten

theorem Spaced.compress (spaced : Spaced parts text) (solid : ∀ part ∈ parts, Solid part)
    (unbroken : ∀ part ∈ parts, ∀ char ∈ part, Text.isLineBreak char = false) :
    Spaced parts text.compress := by
  have blanks : ∀ line : Text, (!line.isEmpty) = false → line.blank = true := by
    intro line dropped
    rw [Bool.not_eq_false', List.isEmpty_iff] at dropped
    rw [dropped]
    rfl
  have feed : Space ['\n'] := List.forall_mem_singleton.mpr (by decide)
  exact (((spaced.lined unbroken).map_trim solid).filter blanks solid).joinWith feed

theorem parse_collapse (read : parse text = .ok value) : parse text.collapse = .ok value := by
  obtain ⟨parts, spaced, denotes⟩ := parse_eq_ok_iff.mp read
  have unbroken : ∀ part ∈ parts, ∀ char ∈ part, (char == '\n') = false := by
    intro part listed char within
    exact (Bool.or_eq_false_iff.mp (denotes.isLineBreak_eq_false part listed char within)).1
  exact parse_eq_ok_iff.mpr ⟨parts, spaced.withoutBreaks denotes.solid unbroken, denotes⟩

theorem parse_compress (read : parse text = .ok value) : parse text.compress = .ok value := by
  obtain ⟨parts, spaced, denotes⟩ := parse_eq_ok_iff.mp read
  exact parse_eq_ok_iff.mpr
    ⟨parts, spaced.compress denotes.solid denotes.isLineBreak_eq_false, denotes⟩

/-! ## The line breaks of a printed document -/

theorem return_not_mem_quote (text : Text) : '\r' ∉ quote text := fun listed => by
  cases (Scalar.string (literal_flatMap_escapeChar text)).isLineBreak_eq_false '\r' listed

theorem return_not_mem_newLine (level : Nat) : '\r' ∉ newLine level := by
  simp [newLine]

theorem return_not_mem_prettyItems {level : Nat} {items : List Value}
    (each : ∀ item ∈ items, '\r' ∉ item.prettyAt (level + 1)) :
    '\r' ∉ prettyItems level items := by
  induction items with
  | nil => simp [prettyItems, return_not_mem_newLine]
  | cons item items ih =>
      rw [List.forall_mem_cons] at each
      simp [prettyItems, return_not_mem_newLine, each.1, ih each.2]

theorem return_not_mem_prettyMembers {level : Nat} {members : List Member}
    (each : ∀ member ∈ members, '\r' ∉ member.2.prettyAt (level + 1)) :
    '\r' ∉ prettyMembers level members := by
  induction members with
  | nil => simp [prettyMembers, return_not_mem_newLine]
  | cons member members ih =>
      rw [List.forall_mem_cons] at each
      simp [prettyMembers, return_not_mem_newLine, return_not_mem_quote, each.1, ih each.2]

/-- The lines of a printed value are ended by line feeds only. -/
theorem return_not_mem_prettyAt (value : Value) (level : Nat) : '\r' ∉ value.prettyAt level := by
  induction value generalizing level with
  | scalar value isScalar =>
      cases value with
      | null => simp [Value.prettyAt]
      | bool value => cases value <;> simp [Value.prettyAt, writeBool]
      | number value =>
          rw [Value.prettyAt]
          intro listed
          cases Numeric.write value '\r' listed
      | string text =>
          rw [Value.prettyAt]
          exact return_not_mem_quote text
      | array items => cases isScalar
      | object members => cases isScalar
  | array items ih =>
      cases items with
      | nil => simp [Value.prettyAt]
      | cons item items =>
          rw [List.forall_mem_cons] at ih
          have others := return_not_mem_prettyItems fun item listed => ih.2 item listed (level + 1)
          simp [Value.prettyAt, return_not_mem_newLine, ih.1, others]
  | object members ih =>
      cases members with
      | nil => simp [Value.prettyAt]
      | cons member members =>
          rw [List.forall_mem_cons] at ih
          have others :=
            return_not_mem_prettyMembers fun member listed => ih.2 member listed (level + 1)
          simp [Value.prettyAt, return_not_mem_newLine, return_not_mem_quote, ih.1, others]

/-- So collapsing takes out all of its line breaks. -/
theorem isLineBreak_eq_false_of_mem_collapse_pretty (value : Value) :
    ∀ char ∈ value.pretty.collapse, Text.isLineBreak char = false := by
  have noReturn : '\r' ∉ value.pretty.collapse := by
    intro listed
    obtain ⟨before, after, same, -⟩ :=
      (Text.mem_collapse_iff (by decide) (by decide) _).mp listed
    apply return_not_mem_prettyAt value 0
    rw [← Value.pretty, same]
    exact List.mem_append_right before List.mem_cons_self
  rw [(Text.collapse_eq_unbroken_iff _).mpr noReturn]
  exact Text.isBreak_eq_false_of_mem_withoutBreaks

/-! ## Printed documents -/

theorem reformat_eq_ok_iff {printed : Text} :
    reformat text = .ok printed ↔ ∃ value, parse text = .ok value ∧ value.pretty = printed := by
  rw [reformat]
  cases parse text <;> simp [Except.map]

theorem minify_eq_ok_iff {output : Text} :
    minify text = .ok output ↔ ∃ value, parse text = .ok value ∧ value.compact = output := by
  rw [minify]
  cases parse text <;> simp [Except.map]

/-- Undoing the lines of a printed document keeps its meaning. Whether they are collapsed or
compressed, what is left is read as the same value, so without blanks it is the same text. A
collapsed document stands on a single line. -/
theorem minify_lines_of_reformat {text printed output : Text}
    (reformatted : reformat text = .ok printed) (minified : minify printed = .ok output) :
    minify printed.collapse = .ok output ∧ minify printed.compress = .ok output ∧
      ∀ char ∈ printed.collapse, Text.isLineBreak char = false := by
  obtain ⟨value, -, rfl⟩ := reformat_eq_ok_iff.mp reformatted
  obtain ⟨again, read, compact⟩ := minify_eq_ok_iff.mp minified
  refine ⟨?_, ?_, isLineBreak_eq_false_of_mem_collapse_pretty value⟩
  · exact minify_eq_ok_iff.mpr ⟨again, parse_collapse read, compact⟩
  · exact minify_eq_ok_iff.mpr ⟨again, parse_compress read, compact⟩

/-- A document with blanks at both ends of a string, an escaped line feed in it, and a carriage
return between its parts. -/
theorem minify_lines_of_reformat_of_blanks :
    reformat "[\"\u00a0\\n\u2028\",\r10]".toList =
      .ok "[\n    \"\u00a0\\n\u2028\",\n    10\n]".toList ∧
    minify "[\n    \"\u00a0\\n\u2028\",\n    10\n]".toList =
      .ok "[\"\u00a0\\n\u2028\",10]".toList ∧
    minify (Text.collapse "[\n    \"\u00a0\\n\u2028\",\n    10\n]".toList) =
      .ok "[\"\u00a0\\n\u2028\",10]".toList ∧
    minify (Text.compress "[\n    \"\u00a0\\n\u2028\",\n    10\n]".toList) =
      .ok "[\"\u00a0\\n\u2028\",10]".toList ∧
    ∀ char ∈ Text.collapse "[\n    \"\u00a0\\n\u2028\",\n    10\n]".toList,
      Text.isLineBreak char = false := by
  have reformatted : reformat "[\"\u00a0\\n\u2028\",\r10]".toList =
      .ok "[\n    \"\u00a0\\n\u2028\",\n    10\n]".toList := by
    cbv
  have minified : minify "[\n    \"\u00a0\\n\u2028\",\n    10\n]".toList =
      .ok "[\"\u00a0\\n\u2028\",10]".toList := by
    cbv
  exact ⟨reformatted, minified, minify_lines_of_reformat reformatted minified⟩

end Reflow.Json
