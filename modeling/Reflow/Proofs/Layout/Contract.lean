import Mathlib.Algebra.Group.Int.Defs
import Mathlib.Algebra.Group.Nat.Defs
import Reflow.Proofs.Layout.Sign

/-!
# The contract of a layout

What a layout promises about its lines alone, where the candidates are single signs: signs stand at
the ends of lines, lines are divided at signs only, and the indentation of a line is the level that
the signs on the lines before it come to.
-/

namespace Reflow

namespace LayoutOptions

/-- How many signs for a role there are on lines. -/
def signCount (options : LayoutOptions) (role : TokenClass) (lines : List Text) : Nat :=
  lines.flatten.countP (options.isSign role)

theorem signCount_cons (options : LayoutOptions) (role : TokenClass) (line : Text)
    (lines : List Text) :
    options.signCount role (line :: lines) =
      line.countP (options.isSign role) + options.signCount role lines := by
  rw [signCount, List.flatten_cons, List.countP_append, signCount]

/-- Whether the first character of a line that is not a space is a closing sign. -/
def startsClosing (options : LayoutOptions) (line : Text) : Bool :=
  (line.dropWhile (· == ' ')).head?.any (options.isSign .closing)

/-- The level of a line behind others. It may be negative. -/
def depth (options : LayoutOptions) (before : List Text) (line : Text) : Int :=
  options.signCount .opening before - options.signCount .closing before -
    if options.startsClosing line then 1 else 0

/-- Lines that are divided and indented by their signs. -/
structure LaidOut (options : LayoutOptions) (lines : List Text) : Prop where
  /-- An opening or breaking sign is the last character of its line. -/
  signEnds {front back : Text} {char : Char} (member : front ++ char :: back ∈ lines)
    (sign : options.isSign .opening char = true ∨ options.isSign .breaking char = true) : back = []
  /-- Only spaces come before a closing sign. -/
  signStarts {front back : Text} {char : Char} (member : front ++ char :: back ∈ lines)
    (sign : options.isSign .closing char = true) : ∀ other ∈ front, other = ' '
  /-- A line that another one follows ends with a sign, or the other one starts with one. -/
  divided {before after : List Text} {line next : Text}
    (split : lines = before ++ line :: next :: after) :
    (∃ front char, line = front ++ [char] ∧
      (options.isSign .opening char = true ∨ options.isSign .breaking char = true)) ∨
    options.startsClosing next = true
  /-- The spaces at the start of a line show its level. -/
  indented {before after : List Text} {line : Text} (split : lines = before ++ line :: after) :
    line.leadingSpaces = min options.indentWidth 64 * (options.depth before line).toNat

end LayoutOptions

namespace Text

variable {left middle right front back : Text} {char : Char}

/-- A character that is in the short end of a text only is its last one. -/
theorem eq_nil_of_append_eq (absent : char ∉ left) (short : right.length ≤ 1)
    (split : left ++ right = front ++ char :: back) : back = [] := by
  rcases List.append_eq_append_iff.mp split with ⟨further, -, rest⟩ | ⟨further, equal, rest⟩
  · rw [rest, List.length_append, List.length_cons] at short
    exact List.length_eq_zero_iff.mp (by omega)
  · cases further with
    | nil =>
        rw [List.nil_append] at rest
        rw [← rest, List.length_cons] at short
        exact List.length_eq_zero_iff.mp (by omega)
    | cons first further =>
        rw [List.cons_append, List.cons.injEq] at rest
        rw [equal, ← rest.1] at absent
        exact absurd (List.mem_append_right front List.mem_cons_self) absent

/-- A character that is in the short middle of a text only stands right behind what is before it. -/
theorem eq_of_append_eq (absentLeft : char ∉ left) (absentRight : char ∉ right)
    (short : middle.length ≤ 1) (split : left ++ (middle ++ right) = front ++ char :: back) :
    front = left := by
  rcases List.append_eq_append_iff.mp split with ⟨further, equal, rest⟩ | ⟨further, equal, rest⟩
  · cases further with
    | nil => rw [equal, List.append_nil]
    | cons first further =>
        have behind (later : Text) : char ∈ later ++ char :: back :=
          List.mem_append_right later List.mem_cons_self
        match middle, short with
        | [], _ =>
            rw [List.nil_append] at rest
            rw [rest] at absentRight
            exact absurd (behind _) absentRight
        | [_], _ =>
            rw [List.singleton_append, List.cons_append, List.cons.injEq] at rest
            rw [rest.2] at absentRight
            exact absurd (behind _) absentRight
  · cases further with
    | nil => rw [equal, List.append_nil]
    | cons first further =>
        rw [List.cons_append, List.cons.injEq] at rest
        rw [equal, ← rest.1] at absentLeft
        exact absurd (List.mem_append_right front List.mem_cons_self) absentLeft

end Text

namespace Row

open LayoutOptions

variable {options : LayoutOptions}

section Signs

variable (distinctSigns : options.DistinctSigns)
include distinctSigns

/-! ## One line -/

theorem isSign_indentation (level : Int) {role : TokenClass} {char : Char}
    (member : char ∈ options.indentation level) : options.isSign role char = false := by
  cases sign : options.isSign role char with
  | false => rfl
  | true =>
      have inked := distinctSigns.signs.isBlank_eq_false sign
      rw [List.eq_of_mem_replicate member] at inked
      exact absurd inked (by decide)

theorem countP_line (level : Int) (row : Row) (role : TokenClass) :
    (line options.indentation (level, row)).countP (options.isSign role) =
      row.written.countP (options.isSign role) := by
  have nothing : (options.indentation level).countP (options.isSign role) = 0 := by
    rw [List.countP_eq_zero]
    intro char member
    simp [isSign_indentation distinctSigns level member]
  rw [line, List.countP_append, nothing, Nat.zero_add]

theorem countP_written_of_blank {row : Row} (blank : row.written.blank = true)
    (role : TokenClass) : row.written.countP (options.isSign role) = 0 := by
  rw [List.countP_eq_zero]
  intro char member sign
  have inked := distinctSigns.signs.isBlank_eq_false sign
  rw [List.all_eq_true.mp blank char member] at inked
  cases inked

section Line

variable {row : Row} (signed : row.Signed options) {level : Int}
include signed

/-- An opening or breaking sign is the last character of its line. -/
theorem Signed.eq_nil_of_line_eq {front back : Text} {char : Char} {role : TokenClass}
    (split : line options.indentation (level, row) = front ++ char :: back)
    (opens : role ≠ .closing) (sign : options.isSign role char = true) : back = [] := by
  have absent : char ∉ options.indentation level ++ (row.closingText ++ row.body) := by
    intro member
    rcases List.mem_append.mp member with member | member
    · cases (isSign_indentation distinctSigns level member).symm.trans sign
    · rcases List.mem_append.mp member with member | member
      · rcases signed.closingText_eq with ⟨empty, -⟩ | ⟨closer, equal, -, closing⟩
        · simp [empty] at member
        · rw [equal, List.mem_singleton] at member
          subst member
          exact opens (distinctSigns.role_eq sign closing)
      · cases (signed.body char member role).symm.trans sign
  have short : row.endingText.length ≤ 1 := by
    rcases signed.endingText_eq with ⟨empty, -⟩ | ⟨_, _, equal, -⟩
    · simp [empty]
    · simp [equal]
  apply Text.eq_nil_of_append_eq absent short
  rw [← split, line, written, List.append_assoc]

/-- Only the indentation comes before a closing sign. -/
theorem Signed.eq_indentation_of_line_eq {front back : Text} {char : Char}
    (split : line options.indentation (level, row) = front ++ char :: back)
    (sign : options.isSign .closing char = true) : front = options.indentation level := by
  have absentLeft : char ∉ options.indentation level := by
    intro member
    cases (isSign_indentation distinctSigns level member).symm.trans sign
  have absentRight : char ∉ row.body ++ row.endingText := by
    intro member
    rcases List.mem_append.mp member with member | member
    · cases (signed.body char member .closing).symm.trans sign
    · rcases signed.endingText_eq with ⟨empty, -⟩ | ⟨role, ender, equal, -, opens, ending⟩
      · simp [empty] at member
      · rw [equal, List.mem_singleton] at member
        subst member
        exact opens (distinctSigns.role_eq ending sign)
  have short : row.closingText.length ≤ 1 := by
    rcases signed.closingText_eq with ⟨empty, -⟩ | ⟨_, equal, -⟩
    · simp [empty]
    · simp [equal]
  apply Text.eq_of_append_eq absentLeft absentRight short
  rw [← split, line, written, List.append_assoc]

theorem Signed.startsClosing_line (fits : (Layout.ofOptions options).Fits row) :
    options.startsClosing (line options.indentation (level, row)) = row.closing.isSome := by
  have margin : ∀ char ∈ options.indentation level, (char == ' ') = true := by
    intro char member
    rw [eq_space_of_mem_indentation member]
    rfl
  have kept : row.written.dropWhile (· == ' ') = row.written := by
    have stops := fits.head?_written distinctSigns.signs.regular
    cases equal : row.written with
    | nil => rfl
    | cons char rest =>
        rw [equal] at stops
        have other : char ≠ ' ' := by simpa using stops
        simp [other]
  rw [startsClosing, line, List.dropWhile_append_of_pos margin, kept, written, List.append_assoc]
  rcases signed.closingText_eq with ⟨empty, closes⟩ | ⟨char, equal, closes, sign⟩
  · rw [empty, closes, List.nil_append]
    cases body : row.body with
    | cons char rest =>
        have plain := signed.body char (by rw [body]; exact List.mem_cons_self) .closing
        simp [plain]
    | nil =>
        rcases signed.endingText_eq with ⟨nothing, -⟩ | ⟨role, char, equal, -, opens, sign⟩
        · simp [nothing]
        · have other : options.isSign .closing char = false := by
            rw [← Bool.not_eq_true]
            exact fun also => opens (distinctSigns.role_eq sign also)
          simp [equal, other]
  · simp [equal, closes, sign]

end Line

/-! ## All lines -/

/-- The level of a row that is shown is the one that the lines before it come to. -/
theorem level_eq_of_shown_eq {rows : List Row} (signed : ∀ row ∈ rows, row.Signed options)
    {before : Int} {front back : List (Int × Row)} {place : Int × Row}
    (split : shown before rows = front ++ place :: back) :
    place.1 = before + options.signCount .opening (front.map (line options.indentation)) -
      options.signCount .closing (front.map (line options.indentation)) -
        if place.2.closing.isSome then 1 else 0 := by
  induction rows generalizing before front with
  | nil => simp [shown, placed] at split
  | cons row rows ih =>
      have others : ∀ row ∈ rows, row.Signed options :=
        fun other member => signed other (List.mem_cons_of_mem row member)
      have behind := (signed row List.mem_cons_self).levelBehind_eq distinctSigns before
      cases blank : row.written.blank with
      | true =>
          rw [shown_cons_of_blank blank] at split
          rw [countP_written_of_blank distinctSigns blank,
            countP_written_of_blank distinctSigns blank] at behind
          rw [ih others split, behind]
          simp
      | false =>
          rw [shown_cons_of_inked blank] at split
          cases front with
          | nil =>
              rw [List.nil_append, List.cons.injEq] at split
              rw [← split.1]
              cases closes : row.closing.isSome <;> simp [level, closes, signCount]
          | cons first front =>
              rw [List.cons_append, List.cons.injEq] at split
              rw [ih others split.2, behind, List.map_cons, signCount_cons, signCount_cons,
                ← split.1, countP_line distinctSigns, countP_line distinctSigns]
              omega

theorem isSome_of_shown_eq {rows : List Row} (lays : (Layout.ofOptions options).Lays rows)
    {before : Int} {front back : List (Int × Row)} {place next : Int × Row}
    (split : shown before rows = front ++ place :: next :: back) :
    place.2.ending.isSome ∨ next.2.closing.isSome := by
  induction lays generalizing before front with
  | nil => simp [shown, placed] at split
  | @cons row rows fits plain meets others ih =>
      cases blank : row.written.blank with
      | true =>
          rw [shown_cons_of_blank blank] at split
          exact ih split
      | false =>
          rw [shown_cons_of_inked blank] at split
          cases front with
          | cons first front =>
              rw [List.cons_append, List.cons.injEq] at split
              exact ih split.2
          | nil =>
              rw [List.nil_append, List.cons.injEq] at split
              rw [← split.1]
              cases ends : row.ending with
              | some match' => exact .inl rfl
              | none =>
                  right
                  cases rows with
                  | nil => simp [shown, placed] at split
                  | cons other rows =>
                      -- The closing token of the next row is no blank, so this row is shown.
                      have closes := meets.mp ends
                      have inked := (others.fits List.mem_cons_self).blank_written
                        distinctSigns.signs.regular closes
                      rw [shown_cons_of_inked inked, List.cons.injEq] at split
                      rw [← split.2.1]
                      exact closes

end Signs

end Row

namespace LayoutOptions

open Row

variable {options : LayoutOptions}

theorem SingleSigns.signCount_le (signs : options.SingleSigns) (role : TokenClass)
    (lines : List Text) : options.signCount role lines ≤ (Text.ink lines.flatten).length := by
  rw [signCount, Text.ink, ← List.countP_eq_length_filter]
  apply List.countP_mono_left
  intro char member sign
  simp [signs.isBlank_eq_false sign]

/-- Up to this number of signs a level is drawn with all of its spaces. -/
theorem length_indentation {level : Int} (small : level < 2 ^ 56) (options : LayoutOptions) :
    (options.indentation level).length = min options.indentWidth 64 * level.toNat := by
  have width : min options.indentWidth largestIndentWidth ≤ 64 := Nat.min_le_right ..
  have bound : level.toNat * min options.indentWidth largestIndentWidth ≤ largestIndentation := by
    calc level.toNat * min options.indentWidth largestIndentWidth
        ≤ 2 ^ 56 * 64 := Nat.mul_le_mul (by omega) width
      _ ≤ largestIndentation := by decide
  rw [indentation, List.length_replicate, Nat.min_eq_left bound, Nat.mul_comm]
  rfl

section Shown

variable {rows : List Row} (distinctSigns : options.DistinctSigns)
  (lays : (Layout.ofOptions options).Lays rows) {front back : List (Int × Row)} {place : Int × Row}
include distinctSigns lays

/-- Between two lines there is a sign, at the end of the first or at the start of the second. -/
theorem exists_sign_of_shown_eq {next : Int × Row}
    (split : shown 0 rows = front ++ place :: next :: back) :
    (∃ text char, line options.indentation place = text ++ [char] ∧
      (options.isSign .opening char = true ∨ options.isSign .breaking char = true)) ∨
    options.startsClosing (line options.indentation next) = true := by
  have within {place : Int × Row} (member : place ∈ shown 0 rows) : place.2 ∈ rows :=
    mem_of_mem_shown member
  have member := within (split ▸ List.mem_append_right front List.mem_cons_self)
  have nextMember := within
    (split ▸ List.mem_append_right front (List.mem_cons_of_mem place List.mem_cons_self))
  rcases isSome_of_shown_eq distinctSigns lays split with ends | closes
  · left
    rcases (lays.signed distinctSigns member).endingText_eq with
      ⟨-, nothing⟩ | ⟨role, char, equal, -, opens, sign⟩
    · rw [nothing] at ends
      cases ends
    · refine ⟨options.indentation place.1 ++ (place.2.closingText ++ place.2.body), char, ?_, ?_⟩
      · simp [line, written, equal]
      · cases role with
        | opening => exact .inl sign
        | closing => exact absurd rfl opens
        | breaking => exact .inr sign
  · right
    rw [← closes]
    exact (lays.signed distinctSigns nextMember).startsClosing_line distinctSigns
      (lays.fits nextMember)

/-- The indentation of a line shows what the signs on the lines before it come to. -/
theorem leadingSpaces_of_shown_eq (split : shown 0 rows = front ++ place :: back)
    (few : (Text.ink ((shown 0 rows).map (line options.indentation)).flatten).length < 2 ^ 56) :
    (line options.indentation place).leadingSpaces =
      min options.indentWidth 64 *
        (options.depth (front.map (line options.indentation))
          (line options.indentation place)).toNat := by
  have member : place.2 ∈ rows :=
    mem_of_mem_shown (split ▸ List.mem_append_right front List.mem_cons_self)
  have level : options.depth (front.map (line options.indentation))
      (line options.indentation place) = place.1 := by
    rw [level_eq_of_shown_eq distinctSigns (fun row => lays.signed distinctSigns) split, depth,
      (lays.signed distinctSigns member).startsClosing_line distinctSigns (lays.fits member),
      Int.zero_add]
  have small : place.1 < 2 ^ 56 := by
    have signs := distinctSigns.signs.signCount_le .opening
      (front.map (line options.indentation))
    rw [split, List.map_append, List.flatten_append, Text.ink_append, List.length_append] at few
    rw [depth] at level
    split at level <;> omega
  rw [level, Layout.leadingSpaces_line distinctSigns.signs.regular (lays.fits member),
    length_indentation small]

theorem laidOut_shown
    (few : (Text.ink ((shown 0 rows).map (line options.indentation)).flatten).length < 2 ^ 56) :
    options.LaidOut ((shown 0 rows).map (line options.indentation)) := by
  constructor
  case signEnds =>
    intro front back char member sign
    obtain ⟨place, inShown, split⟩ := List.mem_map.mp member
    have signed := lays.signed distinctSigns (mem_of_mem_shown inShown)
    rcases sign with sign | sign
    · exact signed.eq_nil_of_line_eq distinctSigns split (by decide) sign
    · exact signed.eq_nil_of_line_eq distinctSigns split (by decide) sign
  case signStarts =>
    intro front back char member sign
    obtain ⟨place, inShown, split⟩ := List.mem_map.mp member
    have signed := lays.signed distinctSigns (mem_of_mem_shown inShown)
    rw [signed.eq_indentation_of_line_eq distinctSigns split sign]
    exact fun other within => List.eq_of_mem_replicate within
  case divided =>
    intro before after text next split
    obtain ⟨front, back, rowsSplit, rfl, linesSplit⟩ := List.map_eq_append_iff.mp split
    obtain ⟨place, others, rfl, rfl, othersSplit⟩ := List.map_eq_cons_iff.mp linesSplit
    obtain ⟨nextPlace, others, rfl, rfl, rfl⟩ := List.map_eq_cons_iff.mp othersSplit
    exact exists_sign_of_shown_eq distinctSigns lays rowsSplit
  case indented =>
    intro before after text split
    obtain ⟨front, back, rowsSplit, rfl, linesSplit⟩ := List.map_eq_append_iff.mp split
    obtain ⟨place, others, rfl, rfl, rfl⟩ := List.map_eq_cons_iff.mp linesSplit
    exact leadingSpaces_of_shown_eq distinctSigns lays rowsSplit few

end Shown

end LayoutOptions

/-- The contract of a layout. Where the candidates are single characters other than blanks, each
listed once, every text is laid out in lines that are divided and indented by their signs. -/
theorem exists_reflow?_laidOut (options : LayoutOptions) (distinctSigns : options.DistinctSigns)
    (text : Text) (short : text.byteLength < 2 ^ 56) :
    ∃ output, (Layout.ofOptions options).reflow? text = some output ∧
      options.LaidOut (Text.linesBy options.lineEnding.text output) := by
  have regular := distinctSigns.signs.regular
  obtain ⟨first, rest, lays, -, unbroken, laidOut⟩ := Layout.exists_document regular text
  obtain ⟨-, _, -, -, same, -, ink⟩ := Layout.exists_reflow?_of_tokensStart regular.starts text
  cases laidOut.symm.trans same
  refine ⟨_, laidOut, ?_⟩
  rw [Layout.linesBy_document unbroken]
  apply LayoutOptions.laidOut_shown distinctSigns lays
  rw [Row.document, Text.ink_joinWith options.lineEnding.ink_text] at ink
  rw [Text.ink_flatten, ink]
  exact Nat.lt_of_le_of_lt (Nat.le_trans text.length_ink_le text.length_le_byteLength) short

/-- Brackets with a level below zero, a blank line to leave out and a tab behind a token. -/
theorem exists_reflow?_laidOut_of_brackets :
    LayoutOptions.brackets.DistinctSigns ∧ Text.byteLength "\x7d[\x7b;\t→\x7d,]".toList < 2 ^ 56 ∧
    ∃ output, (Layout.ofOptions .brackets).reflow? "\x7d[\x7b;\t→\x7d,]".toList = some output ∧
      LayoutOptions.brackets.LaidOut (Text.linesBy LineEnding.lf.text output) := by
  have distinctSigns : LayoutOptions.brackets.DistinctSigns := by
    refine { signs := ?_, distinct := by decide }
    intro candidate listed
    simp only [LayoutOptions.brackets, LayoutOptions.tags, List.cons_append, List.nil_append,
      List.mem_cons, List.not_mem_nil, or_false] at listed
    rcases listed with rfl | rfl | rfl | rfl | rfl | rfl | rfl | rfl <;>
      exact ⟨_, rfl, by decide⟩
  have short : Text.byteLength "\x7d[\x7b;\t→\x7d,]".toList < 2 ^ 56 := by decide
  exact ⟨distinctSigns, short, exists_reflow?_laidOut .brackets distinctSigns _ short⟩

end Reflow
