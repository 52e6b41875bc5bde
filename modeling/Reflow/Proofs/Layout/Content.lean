import Reflow.Proofs.Layout.Walk
import Reflow.Proofs.Text.Lines
import Reflow.Proofs.Token.Place

/-!
# Nothing is lost

A layout moves blanks about and nothing else. On its way a walker has written the ink of exactly the
text behind it, provided that tokens start where the scan stands; and then it never comes to stand
inside of a character. What is drawn adds blanks to that, and the lines left out have no ink.
-/

namespace Reflow

/-! ## The ink of marks -/

namespace Mark

/-- What marks write, without the turns between. -/
def written : List Mark → Text
  | [] => []
  | .write text :: marks => text ++ written marks
  | .turn _ :: marks => written marks

@[simp] theorem written_append (left right : List Mark) :
    written (left ++ right) = written left ++ written right := by
  induction left with
  | nil => rfl
  | cons mark left ih => cases mark <;> simp [written, ih]

/-- Drawing marks adds blanks only. -/
theorem ink_draw {indentation : Int → Text} (noInk : ∀ level, (indentation level).ink = [])
    (marks : List Mark) :
    (draw indentation marks).1.ink ++ ((draw indentation marks).2.map Text.ink).flatten =
      (written marks).ink := by
  induction marks with
  | nil => rfl
  | cons mark marks ih =>
      cases mark with
      | write text => simp [draw, written, ← ih]
      | turn level => simp [draw, written, noInk, ← ih]

theorem ink_lines {indentation : Int → Text} (noInk : ∀ level, (indentation level).ink = [])
    (marks : List Mark) :
    ((lines indentation marks).map Text.ink).flatten = (written marks).ink := by
  have kept : ∀ lines : List Text,
      ((lines.filter fun line => !line.blank).map Text.ink).flatten =
        (lines.map Text.ink).flatten := by
    intro lines
    induction lines with
    | nil => rfl
    | cons line lines ih =>
        cases isBlank : line.blank with
        | true => simp [isBlank, ih, Text.ink_eq_nil_iff.mpr isBlank]
        | false => simp [isBlank, ih]
  rw [lines, kept, List.map_cons, List.flatten_cons, ink_draw noInk]

end Mark

namespace TokenClass

/-- Of its marks, a token writes itself. -/
@[simp] theorem written_marks (level : Int) (text : Text) (role : TokenClass) :
    Mark.written (role.marks level text) = text := by
  cases role <;> simp [marks, Mark.written]

end TokenClass

theorem LineEnding.ink_text (lineEnding : LineEnding) : lineEnding.text.ink = [] := by
  cases lineEnding <;> decide

namespace LayoutOptions

theorem eq_space_of_mem_indentation {options : LayoutOptions} {level : Int} {char : Char}
    (member : char ∈ options.indentation level) : char = ' ' :=
  List.eq_of_mem_replicate member

theorem blank_indentation (options : LayoutOptions) (level : Int) :
    (options.indentation level).blank = true := by
  rw [Text.blank, List.all_eq_true]
  intro char member
  rw [eq_space_of_mem_indentation member]
  decide

theorem ink_indentation (options : LayoutOptions) (level : Int) :
    (options.indentation level).ink = [] :=
  Text.ink_eq_nil_iff.mpr (options.blank_indentation level)

/-- The candidates for tokens in a role. -/
def candidates (options : LayoutOptions) : TokenClass → List Text
  | .opening => options.openTokens
  | .closing => options.closeTokens
  | .breaking => options.breakTokens

/-- Options whose candidates, as patterns, match at the start of a text only. -/
def KeepToStart (options : LayoutOptions) : Prop :=
  ∀ role, (Candidates.ofTexts (options.candidates role)).KeepToStart

/-- Options whose candidates are single characters. -/
def SingleCharacters (options : LayoutOptions) : Prop :=
  ∀ candidate ∈ options.openTokens ++ options.closeTokens ++ options.breakTokens,
    ∃ char, candidate = [char]

theorem mem_of_mem_candidates {options : LayoutOptions} {role : TokenClass} {candidate : Text}
    (listed : candidate ∈ options.candidates role) :
    candidate ∈ options.openTokens ++ options.closeTokens ++ options.breakTokens := by
  cases role <;> simp only [candidates] at listed <;> simp [listed]

/-- Options none of whose candidates gets out of its wrapper keep to the start of a text. -/
theorem keepToStart_of_escapes_eq_false {options : LayoutOptions}
    (enclosed : ∀ candidate ∈ options.openTokens ++ options.closeTokens ++ options.breakTokens,
      Candidate.escapes candidate = false) : options.KeepToStart := by
  intro role
  apply Candidates.keepToStart_ofTexts
  exact fun candidate listed => enclosed candidate (mem_of_mem_candidates listed)

theorem keepToStart_of_singleCharacters {options : LayoutOptions}
    (single : options.SingleCharacters) : options.KeepToStart := by
  apply keepToStart_of_escapes_eq_false
  intro candidate listed
  obtain ⟨char, rfl⟩ := single candidate listed
  rfl

theorem keepToStart_tags (indentWidth : Nat) (lineEnding : LineEnding) :
    KeepToStart { tags with indentWidth, lineEnding } := by
  apply keepToStart_of_escapes_eq_false
  show ∀ candidate ∈ tags.openTokens ++ tags.closeTokens ++ tags.breakTokens, _
  decide

theorem keepToStart_brackets (indentWidth : Nat) (lineEnding : LineEnding) :
    KeepToStart { brackets with indentWidth, lineEnding } := by
  apply keepToStart_of_escapes_eq_false
  show ∀ candidate ∈ brackets.openTokens ++ brackets.closeTokens ++ brackets.breakTokens, _
  decide

end LayoutOptions

namespace Layout

variable {options : LayoutOptions}

theorem match?_of_classify? {text : Text} {role : TokenClass} {token : Token}
    (found : (ofOptions options).classify? text = some (role, token)) :
    (Candidates.ofTexts (options.candidates role)).match? text = some token := by
  simp only [classify?, Option.or_eq_some_iff, Option.map_eq_some_iff] at found
  rcases found with ⟨_, found, equal⟩ | ⟨-, ⟨_, found, equal⟩ | ⟨-, ⟨_, found, equal⟩⟩⟩ <;>
    cases equal <;> exact found

theorem isSome_classify? {text : Text} {role : TokenClass}
    (found : ((Candidates.ofTexts (options.candidates role)).match? text).isSome) :
    ((ofOptions options).classify? text).isSome := by
  simp only [classify?, Option.isSome_or, Option.isSome_map, Bool.or_eq_true]
  cases role with
  | opening => exact .inl found
  | closing => exact .inr (.inl found)
  | breaking => exact .inr (.inr found)

/-- A layout whose tokens start where the scan stands. -/
def TokensStart (layout : Layout) : Prop :=
  ∀ (text : Text) (role : TokenClass) (token : Token),
    layout.classify? text = some (role, token) → token.text <+: text

theorem tokensStart_ofOptions (keep : options.KeepToStart) : (ofOptions options).TokensStart :=
  fun _ role _ found => Candidates.prefix_of_match? (keep role) (match?_of_classify? found)

variable {layout : Layout} {text : Text} {walker next : Walker}

/-! ## The ink that a walker has written -/

/-- A walker that stands between two characters and has written the ink of the text behind it. -/
def Faithful (text : Text) (walker : Walker) : Prop :=
  ∃ behind ahead, text = behind ++ ahead ∧ behind.byteLength = walker.offset ∧
    (Mark.written walker.marks).ink = behind.ink

theorem Faithful.isSome_dropBytes? (faithful : Faithful text walker) :
    (text.dropBytes? walker.offset).isSome := by
  obtain ⟨behind, ahead, rfl, length, -⟩ := faithful
  rw [← length, Text.dropBytes?_byteLength]
  rfl

theorem faithful_start : Faithful text .start :=
  ⟨[], text, rfl, rfl, rfl⟩

/-- A step over a start of what is ahead that writes the ink of this start. -/
theorem Faithful.advance {passed ahead : Text} (faithful : Faithful text walker)
    (cut : text.dropBytes? walker.offset = some (passed ++ ahead))
    (length : next.offset = walker.offset + passed.byteLength)
    (ink : (Mark.written next.marks).ink = (Mark.written walker.marks).ink ++ passed.ink) :
    Faithful text next := by
  obtain ⟨behind, rest, rfl, reached, written⟩ := faithful
  rw [← reached, Text.dropBytes?_byteLength, Option.some.injEq] at cut
  refine ⟨behind ++ passed, ahead, by rw [cut, List.append_assoc], ?_, ?_⟩
  · rw [Text.byteLength_append, reached, length]
  · rw [ink, written, Text.ink_append]

theorem Faithful.step (starts : layout.TokensStart) (faithful : Faithful text walker)
    (stepped : layout.Steps text walker next) : Faithful text next := by
  obtain ⟨rest, cut, -, move⟩ := steps_iff.mp stepped
  cases move with
  | @token role token _ found =>
      obtain ⟨ahead, rfl⟩ := starts rest role token found
      exact faithful.advance cut rfl (by simp)
  | skip notFound behind =>
      have spaces : Text.ink (rest.takeWhile (· == ' ')) = [] := by
        rw [Text.ink_eq_nil_iff, Text.blank, List.all_eq_true]
        intro char member
        have space := List.all_eq_true.mp (List.all_takeWhile (l := rest)) char member
        rw [beq_iff_eq.mp space]
        decide
      rw [← List.takeWhile_append_dropWhile (p := (· == ' ')) (l := rest)] at cut
      exact faithful.advance cut rfl (by simp [spaces])
  | @copy char ahead notFound behind =>
      have first : text.dropBytes? walker.offset = some ([char] ++ ahead) := cut
      exact faithful.advance first rfl (by simp [Mark.written])

/-- Every walker on the way is faithful. -/
theorem faithful_of_reaches (starts : layout.TokensStart)
    (reached : layout.Reaches text .start walker) : Faithful text walker := by
  induction reached with
  | refl => exact faithful_start
  | tail _ stepped ih => exact ih.step starts stepped

/-- A faithful walker that is not at the end of the text can step. -/
theorem Faithful.exists_steps (faithful : Faithful text walker)
    (ahead : walker.offset ≠ text.byteLength) : ∃ next, layout.Steps text walker next := by
  apply Option.isSome_iff_exists.mp
  rw [Option.isSome_iff_ne_none, ne_eq, step?_eq_none_iff]
  obtain ⟨behind, rest, rfl, length, -⟩ := faithful
  rw [← length, Text.dropBytes?_byteLength]
  rintro (inside | atEnd)
  · cases inside
  · cases atEnd
    rw [List.append_nil, length] at ahead
    exact ahead rfl

/-! ## The ink of a layout -/

/-- What is drawn from the marks of a walker at the end has the ink of the text. -/
theorem Faithful.ink_drawn (faithful : Faithful text walker)
    (atEnd : walker.offset = text.byteLength) (options : LayoutOptions) :
    (Text.joinWith options.lineEnding.text
      (Mark.lines options.indentation walker.marks)).ink = text.ink := by
  obtain ⟨behind, ahead, rfl, length, written⟩ := faithful
  have nothing : ahead = [] := by
    rw [← Text.byteLength_eq_zero_iff]
    rw [← length, Text.byteLength_append] at atEnd
    omega
  rw [Text.ink_joinWith options.lineEnding.ink_text, Mark.ink_lines options.ink_indentation, written,
    nothing, List.append_nil]

/-- A layout whose tokens start where the scan stands gives a text with the ink of its input. -/
theorem exists_reflow?_of_tokensStart {options : LayoutOptions}
    (starts : (ofOptions options).TokensStart) (text : Text) :
    ∃ last output, (ofOptions options).Reaches text.unbroken .start last ∧
      last.offset = text.unbroken.byteLength ∧
      (ofOptions options).reflow? text = some output ∧
      output = Text.joinWith options.lineEnding.text
        (Mark.lines options.indentation last.marks) ∧
      output.ink = text.ink := by
  obtain ⟨last, reached, atEnd, marks⟩ := exists_reaches_end
    fun walker reached => (faithful_of_reaches starts reached).isSome_dropBytes?
  refine ⟨last, _, reached, atEnd, ?_, rfl, ?_⟩
  · rw [reflow?, lines?, marks]
    rfl
  · rw [(faithful_of_reaches starts reached).ink_drawn atEnd, Text.ink_unbroken]

end Layout

/-- Layout neither loses nor adds nor reorders content. If no pattern matches further on than at the
start, every walk stands between characters and goes on up to the end of the text, and the layout is
a text with the same characters other than blanks, in the same order. Tags, brackets and single
characters are such candidates, whatever the width of a level and the line ending. -/
theorem reflow?_keeps_content :
    (∀ options : LayoutOptions, options.KeepToStart → ∀ text : Text,
      (∀ walker, (Layout.ofOptions options).Reaches text.unbroken .start walker →
        (text.unbroken.dropBytes? walker.offset).isSome ∧
          (walker.offset = text.unbroken.byteLength ∨
            ∃ next, (Layout.ofOptions options).Steps text.unbroken walker next)) ∧
      ∃ last output,
        (Layout.ofOptions options).Reaches text.unbroken .start last ∧
        last.offset = text.unbroken.byteLength ∧
        (Layout.ofOptions options).reflow? text = some output ∧
        output = Text.joinWith options.lineEnding.text
          (Mark.lines options.indentation last.marks) ∧
        output.ink = text.ink) ∧
    (∀ indentWidth lineEnding,
      LayoutOptions.KeepToStart { LayoutOptions.tags with indentWidth, lineEnding }) ∧
    (∀ indentWidth lineEnding,
      LayoutOptions.KeepToStart { LayoutOptions.brackets with indentWidth, lineEnding }) ∧
    ∀ options : LayoutOptions, options.SingleCharacters → options.KeepToStart := by
  refine ⟨?_, LayoutOptions.keepToStart_tags, LayoutOptions.keepToStart_brackets,
    fun options => LayoutOptions.keepToStart_of_singleCharacters⟩
  intro options keep text
  have starts := Layout.tokensStart_ofOptions keep
  constructor
  · intro walker reached
    have faithful := Layout.faithful_of_reaches starts reached
    refine ⟨faithful.isSome_dropBytes?, ?_⟩
    by_cases atEnd : walker.offset = text.unbroken.byteLength
    · exact .inl atEnd
    · exact .inr (faithful.exists_steps atEnd)
  · exact Layout.exists_reflow?_of_tokensStart starts text

/-- Tags in a text with a line break, spaces around a token and a character that is not ASCII, and
single characters as candidates. -/
theorem reflow?_keeps_content_of_tags :
    LayoutOptions.tags.KeepToStart ∧
    (Text.dropBytes? Walker.start.offset (Text.unbroken "<é>\x7bb ,\r\n c\x7d</é>".toList)).isSome ∧
    (∃ output, (Layout.ofOptions .tags).reflow? "<é>\x7bb ,\r\n c\x7d</é>".toList = some output ∧
      output.ink = "<é>{b,c}</é>".toList) ∧
    LayoutOptions.KeepToStart
      { LayoutOptions.brackets with openTokens := [['→']], closeTokens := [] } := by
  have keep : LayoutOptions.tags.KeepToStart := reflow?_keeps_content.2.1 4 .lf
  obtain ⟨onTheWay, -, output, -, -, laidOut, -, ink⟩ :=
    reflow?_keeps_content.1 .tags keep "<é>\x7bb ,\r\n c\x7d</é>".toList
  refine ⟨keep, (onTheWay .start .refl).1, ⟨output, laidOut, ?_⟩, ?_⟩
  · rw [ink]
    decide
  · apply reflow?_keeps_content.2.2.2
    intro candidate listed
    simp only [LayoutOptions.brackets, LayoutOptions.tags, List.append_nil, List.cons_append,
      List.nil_append, List.mem_cons, List.not_mem_nil, or_false] at listed
    rcases listed with rfl | rfl | rfl <;> exact ⟨_, rfl⟩

end Reflow
