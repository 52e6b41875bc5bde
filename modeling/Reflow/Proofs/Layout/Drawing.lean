import Reflow.Proofs.Layout.Document

/-!
# Lines as they are drawn

A scan comes to lines, each on a level, whatever the width of a level and the line ending. Drawing
puts an indentation before every line and a line ending between neighbours. The characters of the
lines are those of the text that is scanned, so no line break gets into a line, and a document reads
back as the lines that it was drawn from.
-/

namespace Reflow

namespace Mark

/-- The lines that marks come to, if `line` is on the current line and `level` is its level. Each
line has its level, and what is written on it behind the indentation. -/
def leveled (level : Int) (line : Text) : List Mark → List (Int × Text)
  | [] => [(level, line)]
  | .write text :: marks => leveled level (line ++ text) marks
  | .turn next :: marks => (level, line) :: leveled next [] marks

/-- A line with the indentation of its level. -/
def indented (indentation : Int → Text) (line : Int × Text) : Text :=
  indentation line.1 ++ line.2

/-- The lines of a document: those that do not hold blanks only. -/
def documentLines (marks : List Mark) : List (Int × Text) :=
  (leveled 0 [] marks).filter fun line => !line.2.blank

theorem map_snd_documentLines (marks : List Mark) :
    (documentLines marks).map Prod.snd =
      ((leveled 0 [] marks).map Prod.snd).filter fun line => !line.blank := by
  rw [List.filter_map]
  rfl

theorem map_indented_leveled (indentation : Int → Text) (level : Int) (line : Text)
    (marks : List Mark) :
    (leveled level line marks).map (indented indentation) =
      (indentation level ++ line ++ (draw indentation marks).1) :: (draw indentation marks).2 := by
  induction marks generalizing level line with
  | nil => simp [leveled, indented, draw]
  | cons mark marks ih =>
      cases mark with
      | write text => simp [leveled, draw, ih]
      | turn next => simp [leveled, indented, draw, ih]

theorem flatten_leveled (level : Int) (line : Text) (marks : List Mark) :
    ((leveled level line marks).map Prod.snd).flatten = line ++ written marks := by
  induction marks generalizing level line with
  | nil => simp [leveled, written]
  | cons mark marks ih =>
      cases mark with
      | write text => simp [leveled, written, ih]
      | turn next => simp [leveled, written, ih]

end Mark

namespace LayoutOptions

open Mark

@[simp] theorem indentation_zero (options : LayoutOptions) : options.indentation 0 = [] := by
  simp [indentation]

/-- The indentation depends on the width of a level only, up to the largest width. -/
theorem indentation_eq_of_width (options other : LayoutOptions)
    (same : min other.indentWidth 64 = min options.indentWidth 64) :
    other.indentation = options.indentation := by
  funext level
  have width : min other.indentWidth largestIndentWidth =
      min options.indentWidth largestIndentWidth := same
  rw [indentation, indentation, width]

theorem blank_indented (options : LayoutOptions) (line : Int × Text) :
    (indented options.indentation line).blank = line.2.blank := by
  rw [indented, Text.blank_append, options.blank_indentation, Bool.true_and]

/-- Without the spaces at its start a line does not show its level. -/
theorem dropWhile_indented (options : LayoutOptions) (line : Int × Text) :
    (indented options.indentation line).dropWhile (· == ' ') =
      line.2.dropWhile (· == ' ') := by
  have spaces : ∀ char ∈ options.indentation line.1, (char == ' ') = true := by
    intro char listed
    rw [eq_space_of_mem_indentation listed]
    rfl
  rw [indented, List.dropWhile_append_of_pos spaces]

theorem lines_eq (options : LayoutOptions) (marks : List Mark) :
    lines options.indentation marks =
      (documentLines marks).map (indented options.indentation) := by
  have drawn := map_indented_leveled options.indentation 0 [] marks
  rw [indentation_zero, List.nil_append, List.nil_append] at drawn
  have shown : (fun line : Text => !line.blank) ∘ indented options.indentation =
      fun line => !line.2.blank := by
    funext line
    exact congrArg _ (options.blank_indented line)
  calc lines options.indentation marks
      = ((draw options.indentation marks).1 :: (draw options.indentation marks).2).filter
          fun line => !line.blank := rfl
    _ = (documentLines marks).map (indented options.indentation) := by
        rw [← drawn, List.filter_map, shown, documentLines]

end LayoutOptions

/-! ## Where the characters come from -/

/-- A token consists of characters of the text that it is looked for in, also if it does not start
this text. -/
theorem Candidates.mem_of_match? {candidates : Candidates} {text : Text} {token : Token}
    (found : candidates.match? text = some token) : ∀ char ∈ token.text, char ∈ text := by
  intro char within
  rcases match?_eq_some found with literal | ⟨-, decider, decided, rfl⟩
  · exact (prefix_of_matchLiteral? literal).1.subset within
  · obtain ⟨candidate, -, decided⟩ := List.exists_of_findSome?_eq_some decided
    obtain ⟨pattern, -, search, -⟩ := Candidate.find?_of_found? decided
    obtain ⟨behind, equal⟩ := Pattern.exists_append_of_find? search
    rw [equal]
    exact List.mem_append_left _ (List.mem_append_right _ within)

namespace Layout

variable {layout : Layout} {text : Text} {walker next : Walker}

theorem mem_of_classify? {role : TokenClass} {token : Token}
    (found : layout.classify? text = some (role, token)) : ∀ char ∈ token.text, char ∈ text := by
  simp only [classify?, Option.or_eq_some_iff, Option.map_eq_some_iff] at found
  rcases found with ⟨_, found, equal⟩ | ⟨-, ⟨_, found, equal⟩ | ⟨-, ⟨_, found, equal⟩⟩⟩ <;>
    cases equal <;> exact Candidates.mem_of_match? found

/-- A walker that has written nothing but characters of the text. -/
def Copies (text : Text) (walker : Walker) : Prop :=
  ∀ char ∈ Mark.written walker.marks, char ∈ text

theorem copies_start : Copies text .start := by
  intro char within
  cases within

theorem Copies.step (copies : Copies text walker) (stepped : layout.Steps text walker next) :
    Copies text next := by
  obtain ⟨rest, cut, -, move⟩ := steps_iff.mp stepped
  obtain ⟨behind, rfl, -⟩ := Text.dropBytes?_eq_some_iff.mp cut
  intro char within
  cases move with
  | token found =>
      rw [Mark.written_append, TokenClass.written_marks, List.mem_append] at within
      rcases within with before | within
      · exact copies char before
      · exact List.mem_append_right _ (mem_of_classify? found char within)
  | skip notFound behindToken => exact copies char within
  | copy notFound behindToken =>
      rw [Mark.written_append, List.mem_append] at within
      rcases within with before | within
      · exact copies char before
      · rw [List.mem_singleton.mp within]
        exact List.mem_append_right _ List.mem_cons_self

theorem copies_of_reaches (reached : layout.Reaches text .start walker) : Copies text walker := by
  induction reached with
  | refl => exact copies_start
  | tail _ stepped ih => exact ih.step stepped

/-- The marks of a scan are those of a walker at the end of the text. -/
theorem exists_reaches_of_scan {marks : List Mark}
    (scanned : layout.scan 0 false text = some marks) :
    ∃ last, layout.Reaches text .start last ∧ last.offset = text.byteLength ∧
      last.marks = marks := by
  obtain ⟨last, reached, stuck⟩ := exists_reaches_stuck layout text .start
  have foretold : layout.resume text last = some marks := by
    rw [resume_of_reaches reached, resume_start, scanned]
  rcases step?_eq_none_iff.mp stuck with inside | atEnd
  · rw [resume, inside] at foretold
    cases foretold
  · refine ⟨last, reached, ?_, ?_⟩
    · simpa using (Text.byteLength_eq_of_dropBytes? atEnd).symm
    · simpa [resume, atEnd] using foretold

theorem mem_of_mem_written {marks : List Mark} (scanned : layout.scan 0 false text = some marks) :
    ∀ char ∈ Mark.written marks, char ∈ text := by
  obtain ⟨last, reached, -, rfl⟩ := exists_reaches_of_scan scanned
  exact copies_of_reaches reached

/-- The lines of a document hold neither blanks only nor line breaks. -/
theorem proper_lines {marks : List Mark}
    (scanned : layout.scan 0 false text.unbroken = some marks) (options : LayoutOptions) :
    ∀ line ∈ Mark.lines options.indentation marks,
      line.blank = false ∧ ∀ char ∈ line, Text.isLineBreak char = false := by
  intro line listed
  rw [options.lines_eq] at listed
  obtain ⟨place, shown, rfl⟩ := List.mem_map.mp listed
  obtain ⟨drawn, inked⟩ := List.mem_filter.mp shown
  constructor
  · rw [options.blank_indented]
    simpa using inked
  · intro char within
    rcases List.mem_append.mp within with margin | within
    · rw [LayoutOptions.eq_space_of_mem_indentation margin]
      decide
    · have written : char ∈ Mark.written marks := by
        have flattened := Mark.flatten_leveled 0 [] marks
        rw [List.nil_append] at flattened
        rw [← flattened, List.mem_flatten]
        exact ⟨place.2, List.mem_map_of_mem drawn, within⟩
      exact Text.isBreak_eq_false_of_mem_withoutBreaks char
        (mem_of_mem_written scanned char written)

/-! ## Two ways to draw a scan -/

/-- What is scanned does not depend on how it is drawn. -/
theorem scan_with_options (layout : Layout) (options : LayoutOptions) (level : Int)
    (behindToken : Bool) (text : Text) :
    scan { layout with options } level behindToken text = layout.scan level behindToken text := by
  have same (text : Text) : classify? { layout with options } text = layout.classify? text := rfl
  induction level, behindToken, text using scan.induct layout with
  | case1 level behindToken => rw [scan_nil, scan_nil]
  | case2 level behindToken char rest role token found inside =>
      rw [scan_of_classify? found, scan_of_classify? ((same _).trans found), inside]
      rfl
  | case3 level behindToken char rest role token found left cut ih =>
      rw [scan_of_classify? found, scan_of_classify? ((same _).trans found), cut,
        Option.bind_some, Option.bind_some, ih]
  | case4 level char rest notFound ih =>
      rw [scan_behindToken notFound, scan_behindToken ((same _).trans notFound), ih]
  | case5 level behindToken char rest notFound behind ih =>
      rw [Bool.not_eq_true] at behind
      rw [behind, scan_cons notFound, scan_cons ((same _).trans notFound), ih]

end Layout

/-- The width of a level and the line ending change how lines are drawn, and nothing else. Whatever
the candidates, a document is its lines with line endings between them, and no line holds blanks
only or a line break. With another width and another line ending the text is laid out in as many
lines, which are the same without the spaces at their starts; and they are the same altogether if
the widths are, up to the largest one. -/
theorem reflow?_drawn_alike (options : LayoutOptions) (text output : Text)
    (laidOut : (Layout.ofOptions options).reflow? text = some output) :
    output = Text.joinWith options.lineEnding.text
      (Text.linesBy options.lineEnding.text output) ∧
    (∀ line ∈ Text.linesBy options.lineEnding.text output,
      line.blank = false ∧ ∀ char ∈ line, Text.isLineBreak char = false) ∧
    ∀ (indentWidth : Nat) (lineEnding : LineEnding), ∃ other,
      (Layout.ofOptions { options with indentWidth, lineEnding }).reflow? text = some other ∧
      (Text.linesBy lineEnding.text other).length =
        (Text.linesBy options.lineEnding.text output).length ∧
      (Text.linesBy lineEnding.text other).map (List.dropWhile (· == ' ')) =
        (Text.linesBy options.lineEnding.text output).map (List.dropWhile (· == ' ')) ∧
      (min indentWidth 64 = min options.indentWidth 64 →
        Text.linesBy lineEnding.text other = Text.linesBy options.lineEnding.text output) := by
  rw [Layout.reflow?, Layout.lines?, Option.map_map, Option.map_eq_some_iff] at laidOut
  obtain ⟨marks, scanned, rfl⟩ := laidOut
  have proper := Layout.proper_lines scanned
  have readBack := options.lineEnding.linesBy_joinWith (proper options)
  rw [Function.comp_apply, Layout.ofOptions, readBack]
  refine ⟨rfl, proper options, ?_⟩
  intro indentWidth lineEnding
  let others : LayoutOptions := { options with indentWidth, lineEnding }
  have otherReadBack := lineEnding.linesBy_joinWith (proper others)
  have otherScanned : (Layout.ofOptions others).scan 0 false text.unbroken = some marks := by
    rw [← scanned]
    exact Layout.scan_with_options (.ofOptions options) others 0 false text.unbroken
  refine ⟨Text.joinWith lineEnding.text (Mark.lines others.indentation marks), ?_, ?_⟩
  · rw [Layout.reflow?, Layout.lines?, otherScanned]
    rfl
  · rw [otherReadBack, options.lines_eq, others.lines_eq]
    refine ⟨?_, ?_, ?_⟩
    · rw [List.length_map, List.length_map]
    · rw [List.map_map, List.map_map]
      apply List.map_congr_left
      intro line listed
      exact (others.dropWhile_indented line).trans (options.dropWhile_indented line).symm
    · intro same
      rw [options.indentation_eq_of_width others same]

/-- A candidate that gets out of its wrapper, so that the first of its tokens stands further on in
the text than where it is found. The lines are on two levels, and they are the same with wide levels
and with other line endings. -/
theorem reflow?_drawn_alike_of_astray :
    (Layout.ofOptions
      { LayoutOptions.brackets with openTokens := ["a)|(?:b".toList], indentWidth := 1 }).reflow?
        "xb".toList = some "b\n b".toList ∧
    (∃ other, (Layout.ofOptions { LayoutOptions.brackets with
        openTokens := ["a)|(?:b".toList], indentWidth := 80, lineEnding := .crlf }).reflow?
          "xb".toList = some other ∧
      (Text.linesBy LineEnding.crlf.text other).map (List.dropWhile (· == ' ')) =
        [['b'], ['b']]) ∧
    min 1 64 = 1 ∧
    ∃ other, (Layout.ofOptions { LayoutOptions.brackets with
        openTokens := ["a)|(?:b".toList], indentWidth := 1, lineEnding := .crlf }).reflow?
          "xb".toList = some other ∧
      Text.linesBy LineEnding.crlf.text other = [['b'], [' ', 'b']] := by
  have laidOut : (Layout.ofOptions
      { LayoutOptions.brackets with openTokens := ["a)|(?:b".toList], indentWidth := 1 }).reflow?
        "xb".toList = some "b\n b".toList := by
    have unbroken : Text.withoutBreaks Text.isLineBreak "xb".toList = ['x', 'b'] := by decide
    have astray : (Layout.ofOptions { LayoutOptions.brackets with
        openTokens := ["a)|(?:b".toList], indentWidth := 1 }).classify? ['x', 'b'] =
          some (.opening, { text := ['b'], kind := .pattern }) := by decide
    have behindAstray : Text.dropBytes? (Token.byteLength { text := ['b'], kind := .pattern })
        ['x', 'b'] = some ['b'] := by decide
    have starts : (Layout.ofOptions { LayoutOptions.brackets with
        openTokens := ["a)|(?:b".toList], indentWidth := 1 }).classify? ['b'] =
          some (.opening, { text := ['b'], kind := .pattern }) := by decide
    have nothing : Text.dropBytes? (Token.byteLength { text := ['b'], kind := .pattern }) ['b'] =
        some [] := by decide
    rw [Layout.reflow?, Layout.lines?, unbroken, Layout.scan_of_classify? astray, behindAstray,
      Option.bind_some, Layout.scan_of_classify? starts, nothing, Option.bind_some,
      Layout.scan_nil]
    decide
  have readBack : Text.linesBy LineEnding.lf.text "b\n b".toList = [['b'], [' ', 'b']] := by
    decide
  obtain ⟨-, -, alike⟩ := reflow?_drawn_alike _ _ _ laidOut
  obtain ⟨wide, wideLaidOut, -, wideLines, -⟩ := alike 80 .crlf
  obtain ⟨same, sameLaidOut, -, -, sameLines⟩ := alike 1 .crlf
  refine ⟨laidOut, ⟨wide, wideLaidOut, ?_⟩, rfl, same, sameLaidOut, ?_⟩
  · rw [wideLines]
    exact congrArg (List.map (List.dropWhile (· == ' '))) readBack
  · exact (sameLines rfl).trans readBack

end Reflow
