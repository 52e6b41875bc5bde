import Reflow.Proofs.Layout.Drawing
import Reflow.Proofs.Layout.Preset
import Reflow.Proofs.Text.Seams

/-!
# Undoing a layout

Collapsing a layout gives back the text that was laid out, if this text has no blanks where the scan
cuts it: a walker then cuts the text behind it into lines with ink at both edges, and nothing but
indentation and line endings has been added. In the other direction, a layout that a text comes with
is undone before it is laid out anew, so it makes no difference.
-/

namespace Reflow

namespace TokenClass

theorem marks_of_ne_closing {role : TokenClass} (opens : role ≠ .closing) (level : Int)
    (text : Text) : role.marks level text = [.write text, .turn (role.levelBehind level)] := by
  cases role with
  | opening => rfl
  | closing => exact absurd rfl opens
  | breaking => rfl

end TokenClass

namespace Layout

/-- A text without blanks where a scan cuts it: there is none behind a token that the scan finds,
and none before a closing one. -/
def Tight (layout : Layout) (text : Text) : Prop :=
  ∀ (walker : Walker) (before after : Text) (role : TokenClass) (token : Token),
    layout.Reaches text .start walker → before.byteLength = walker.offset →
    text = before ++ (token.text ++ after) →
    layout.classify? (token.text ++ after) = some (role, token) →
    after.StartsInked ∧ (role = .closing → before.EndsInked)

/-- A text is tight if no token that stands anywhere in it is next to such blanks, be it found by
the scan or not. -/
theorem tight_of_places {layout : Layout} {text : Text}
    (places : ∀ count ∈ List.range (text.length + 1),
      ∀ found ∈ layout.classify? (text.drop count),
        Text.StartsInked (text.drop (count + found.2.text.length)) ∧
        (found.1 = .closing → Text.EndsInked (text.take count))) : layout.Tight text := by
  intro walker before after role token _ _ divided found
  have within : before.length ∈ List.range (text.length + 1) := by
    rw [List.mem_range, divided, List.length_append]
    omega
  have cut : text.drop before.length = token.text ++ after := by
    rw [divided, List.drop_left]
  obtain ⟨starts, ends⟩ := places before.length within (role, token) (cut ▸ found)
  constructor
  · rwa [← List.drop_drop, cut, List.drop_left] at starts
  · intro closes
    have before := ends closes
    rwa [divided, List.take_left] at before

/-- A walker that has cut the text `behind` it into `lines` with ink at both edges, and is on the
line `last`, which starts with ink. -/
structure Cuts (text behind ahead : Text) (lines : List (Int × Text)) (last : Int × Text)
    (walker : Walker) : Prop where
  divided : text = behind ++ ahead
  reached : behind.byteLength = walker.offset
  /-- Whatever else is put on paper goes on with the last line. -/
  drawn : ∀ marks, Mark.leveled 0 [] (walker.marks ++ marks) =
    lines ++ Mark.leveled last.1 last.2 marks
  whole : (lines.map Prod.snd).flatten ++ last.2 = behind
  edges : ∀ line ∈ lines, line.2.StartsInked ∧ line.2.EndsInked
  starts : last.2.StartsInked
  /-- What comes next is written as it is: it neither starts a line with blanks, nor are spaces in
  it skipped. -/
  goesOn : walker.behindToken = true ∨ last.2 = [] → ahead.StartsInked

variable {layout : Layout} {text behind ahead : Text} {lines : List (Int × Text)}
  {last : Int × Text} {walker next : Walker}

theorem cuts_start (starts : text.StartsInked) : Cuts text [] text [] (0, []) .start where
  divided := rfl
  reached := rfl
  drawn _ := rfl
  whole := rfl
  edges := by simp
  starts := Text.startsInked_nil
  goesOn _ := starts

namespace Cuts

variable {role : TokenClass} {token : Token} {after : Text}

theorem edges_concat (cuts : Cuts text behind ahead lines last walker)
    {line : Int × Text} (starts : line.2.StartsInked) (ends : line.2.EndsInked) :
    ∀ other ∈ lines ++ [line], other.2.StartsInked ∧ other.2.EndsInked := by
  intro other listed
  rcases List.mem_append.mp listed with before | listed
  · exact cuts.edges other before
  · rw [List.mem_singleton.mp listed]
    exact ⟨starts, ends⟩

/-- An opening or breaking token ends the last line. -/
theorem ending (cuts : Cuts text behind (token.text ++ after) lines last walker)
    (opens : role ≠ .closing) (inked : token.text.Inked) (notEmpty : token.text ≠ [])
    (goesOn : after.StartsInked) :
    Cuts text (behind ++ token.text) after (lines ++ [(last.1, last.2 ++ token.text)])
      (role.levelBehind walker.level, [])
      { offset := walker.offset + token.byteLength
        level := role.levelBehind walker.level
        behindToken := true
        marks := walker.marks ++ role.marks walker.level token.text } where
  divided := by rw [cuts.divided, List.append_assoc]
  reached := by rw [Text.byteLength_append, cuts.reached, Token.byteLength]
  drawn marks := by
    rw [List.append_assoc, cuts.drawn, TokenClass.marks_of_ne_closing opens]
    simp [Mark.leveled]
  whole := by simp [← cuts.whole]
  edges := cuts.edges_concat (cuts.starts.append inked.startsInked)
    (inked.endsInked.append_of_ne_nil notEmpty)
  starts := Text.startsInked_nil
  goesOn _ := goesOn

/-- A closing token starts a line, and ends the one before. -/
theorem closing (cuts : Cuts text behind (token.text ++ after) lines last walker)
    (inked : token.text.Inked) (goesOn : after.StartsInked) (ends : behind.EndsInked) :
    Cuts text (behind ++ token.text) after (lines ++ [last])
      (walker.level - 1, token.text)
      { offset := walker.offset + token.byteLength
        level := TokenClass.closing.levelBehind walker.level
        behindToken := true
        marks := walker.marks ++ TokenClass.closing.marks walker.level token.text } where
  divided := by rw [cuts.divided, List.append_assoc]
  reached := by rw [Text.byteLength_append, cuts.reached, Token.byteLength]
  drawn marks := by
    rw [List.append_assoc, cuts.drawn]
    simp [TokenClass.marks, Mark.leveled]
  whole := by simp [← cuts.whole]
  edges := by
    rw [← cuts.whole] at ends
    exact cuts.edges_concat cuts.starts ends.of_append
  starts := inked.startsInked
  goesOn _ := goesOn

theorem skip (cuts : Cuts text behind ahead lines last walker)
    (behindToken : walker.behindToken = true) :
    Cuts text behind ahead lines last { walker with
      offset := walker.offset + Text.byteLength (ahead.takeWhile (· == ' '))
      behindToken := false } := by
  have nothing : ahead.takeWhile (· == ' ') = [] := by
    cases equal : ahead with
    | nil => rfl
    | cons char rest =>
        have inked := cuts.goesOn (.inl behindToken)
        rw [equal, Text.startsInked_cons_iff] at inked
        have other : char ≠ ' ' := by
          intro space
          rw [space] at inked
          exact absurd inked (by decide)
        simp [other]
  rw [nothing, Text.byteLength_nil, Nat.add_zero]
  exact { cuts with goesOn := fun _ => cuts.goesOn (.inl behindToken) }

theorem copy {char : Char} {rest : Text}
    (cuts : Cuts text behind (char :: rest) lines last walker)
    (behindToken : walker.behindToken = false) :
    Cuts text (behind ++ [char]) rest lines (last.1, last.2 ++ [char]) { walker with
      offset := walker.offset + char.utf8Size
      marks := walker.marks ++ [.write [char]] } where
  divided := by rw [cuts.divided, List.append_cons]
  reached := by simp [cuts.reached]
  drawn marks := by
    rw [List.append_assoc, cuts.drawn]
    rfl
  whole := by rw [← cuts.whole, List.append_assoc]
  edges := cuts.edges
  starts := by
    cases written : last.2 with
    | nil =>
        have inked := cuts.goesOn (.inr written)
        simpa using inked
    | cons first others =>
        have inked := cuts.starts
        rw [written] at inked
        simpa using inked
  goesOn := by simp [behindToken]

theorem step (regular : layout.Regular) (tight : layout.Tight text)
    (onTheWay : layout.Reaches text .start walker)
    (cuts : Cuts text behind ahead lines last walker) (stepped : layout.Steps text walker next) :
    ∃ behind ahead lines last, Cuts text behind ahead lines last next := by
  obtain ⟨rest, cut, -, move⟩ := steps_iff.mp stepped
  have same : ahead = rest := by
    rw [cuts.divided, ← cuts.reached, Text.dropBytes?_byteLength] at cut
    exact Option.some.inj cut
  subst same
  cases move with
  | @token role token _ found =>
      have known : layout.HasToken role token := ⟨_, found⟩
      obtain ⟨after, rfl⟩ := regular.exists_append found
      obtain ⟨goesOn, ends⟩ :=
        tight walker behind after role token onTheWay cuts.reached cuts.divided found
      by_cases closes : role = .closing
      · subst closes
        exact ⟨_, _, _, _, cuts.closing (regular.inked known) goesOn (ends rfl)⟩
      · exact ⟨_, _, _, _, cuts.ending closes (regular.inked known) known.ne_nil goesOn⟩
  | skip notFound behindToken => exact ⟨_, _, _, _, cuts.skip behindToken⟩
  | copy notFound behindToken => exact ⟨_, _, _, _, cuts.copy behindToken⟩

end Cuts

theorem exists_cuts_of_reaches (regular : layout.Regular) (starts : text.StartsInked)
    (tight : layout.Tight text) (reached : layout.Reaches text .start walker) :
    ∃ behind ahead lines last, Cuts text behind ahead lines last walker := by
  induction reached with
  | refl => exact ⟨_, _, _, _, cuts_start starts⟩
  | tail onTheWay stepped ih =>
      obtain ⟨_, _, _, _, cuts⟩ := ih
      exact cuts.step regular tight onTheWay stepped

/-- The lines of a tight text are cut from it, and trimming leaves them alone. -/
theorem flatten_trim_leveled (regular : layout.Regular) (starts : text.StartsInked)
    (ends : text.EndsInked) (tight : layout.Tight text) {marks : List Mark}
    (scanned : layout.scan 0 false text = some marks) :
    (((Mark.leveled 0 [] marks).map Prod.snd).map Text.trim).flatten = text := by
  obtain ⟨walker, reached, atEnd, rfl⟩ := exists_reaches_of_scan scanned
  obtain ⟨behind, ahead, lines, last, cuts⟩ :=
    exists_cuts_of_reaches regular starts tight reached
  have nothing : ahead = [] := by
    rw [cuts.divided, Text.byteLength_append, cuts.reached] at atEnd
    rw [← Text.byteLength_eq_zero_iff]
    omega
  have all : (lines.map Prod.snd).flatten ++ last.2 = text := by
    rw [cuts.whole, cuts.divided, nothing, List.append_nil]
  have drawn : Mark.leveled 0 [] walker.marks = lines ++ [last] := by
    have drawn := cuts.drawn []
    rwa [List.append_nil] at drawn
  have edges : ∀ line ∈ lines ++ [last], (Text.trim ∘ Prod.snd) line = line.2 := by
    intro line listed
    rw [← all] at ends
    obtain ⟨lineStarts, lineEnds⟩ := cuts.edges_concat cuts.starts ends.of_append line listed
    exact Text.trim_eq_self lineStarts lineEnds
  calc (((Mark.leveled 0 [] walker.marks).map Prod.snd).map Text.trim).flatten
      = ((lines ++ [last]).map Prod.snd).flatten := by
        rw [drawn, List.map_map, List.map_congr_left edges]
    _ = text := by simpa using all

theorem collapse_drawn {marks : List Mark} (options : LayoutOptions)
    (scanned : layout.scan 0 false text.unbroken = some marks) :
    Text.collapse (Text.joinWith options.lineEnding.text
        (Mark.lines options.indentation marks)) =
      (((Mark.leveled 0 [] marks).map Prod.snd).map Text.trim).flatten := by
  have noFeed : ∀ line ∈ Mark.lines options.indentation marks, ∀ char ∈ line,
      (char == '\n') = false := by
    intro line listed char within
    have unbroken := (proper_lines scanned options line listed).2 char within
    rw [Text.isLineBreak, Bool.or_eq_false_iff] at unbroken
    exact unbroken.1
  have trimmed : Text.trim ∘ Mark.indented options.indentation = Text.trim ∘ Prod.snd := by
    funext line
    exact Text.trim_append_of_blank (options.blank_indentation line.1) line.2
  calc Text.collapse (Text.joinWith options.lineEnding.text
        (Mark.lines options.indentation marks))
      = ((Mark.lines options.indentation marks).map Text.trim).flatten :=
        Text.withoutBreaks_joinWith options.lineEnding.blank_text
          ⟨'\n', options.lineEnding.feed_mem_text, rfl⟩ noFeed
    _ = (((Mark.documentLines marks).map Prod.snd).map Text.trim).flatten := by
        rw [options.lines_eq, List.map_map, trimmed, List.map_map]
    _ = (((Mark.leveled 0 [] marks).map Prod.snd).map Text.trim).flatten := by
        rw [Mark.map_snd_documentLines, Text.flatten_map_trim_filter]

/-- A layout depends on what is left of the text when its line breaks are taken out. -/
theorem reflow?_eq_of_unbroken_eq {other : Text} (same : text.unbroken = other.unbroken) :
    layout.reflow? text = layout.reflow? other := by
  rw [Text.unbroken, Text.unbroken] at same
  rw [reflow?, lines?, same, reflow?, lines?]

end Layout

/-- Collapsing undoes a layout. For tags and for single signs, whatever the width of a level and the
line ending, a text without line breaks that neither starts nor ends with a blank, and has none
behind a token nor before a closing one, is laid out in a text that collapses to it. -/
theorem collapse_reflow? (options : LayoutOptions)
    (known : (∃ indentWidth lineEnding,
        options = { LayoutOptions.tags with indentWidth, lineEnding }) ∨ options.SingleSigns)
    (text : Text) (unbroken : ∀ char ∈ text, Text.isLineBreak char = false)
    (starts : text.StartsInked) (ends : text.EndsInked)
    (tight : (Layout.ofOptions options).Tight text) :
    ∃ output, (Layout.ofOptions options).reflow? text = some output ∧ output.collapse = text := by
  have regular : (Layout.ofOptions options).Regular := by
    rcases known with ⟨indentWidth, lineEnding, rfl⟩ | signs
    · exact LayoutOptions.regular_tags indentWidth lineEnding
    · exact signs.regular
  have same : text.withoutBreaks Text.isLineBreak = text := by
    rw [Text.withoutBreaks_of_not_mem unbroken, Text.trim_eq_self starts ends]
  obtain ⟨output, laidOut⟩ : ∃ output, (Layout.ofOptions options).reflow? text = some output := by
    obtain ⟨_, output, _, _, laidOut, _⟩ := Layout.exists_reflow?_of_tokensStart regular.starts text
    exact ⟨output, laidOut⟩
  refine ⟨output, laidOut, ?_⟩
  rw [Layout.reflow?, Layout.lines?, Option.map_map, Option.map_eq_some_iff] at laidOut
  obtain ⟨marks, scanned, rfl⟩ := laidOut
  calc _ = (((Mark.leveled 0 [] marks).map Prod.snd).map Text.trim).flatten :=
        Layout.collapse_drawn options scanned
    _ = text := Layout.flatten_trim_leveled regular starts ends tight (same ▸ scanned)

/-- Tags with a blank inside of a line and one before an opening bracket, both of which stay. -/
theorem collapse_reflow?_of_tags :
    (∀ char ∈ "<a>k \x7bc d\x7d;</a>".toList, Text.isLineBreak char = false) ∧
    Text.StartsInked "<a>k \x7bc d\x7d;</a>".toList ∧
    Text.EndsInked "<a>k \x7bc d\x7d;</a>".toList ∧
    (Layout.ofOptions { LayoutOptions.tags with indentWidth := 3, lineEnding := .crlf }).Tight
      "<a>k \x7bc d\x7d;</a>".toList ∧
    ∃ output, (Layout.ofOptions
        { LayoutOptions.tags with indentWidth := 3, lineEnding := .crlf }).reflow?
          "<a>k \x7bc d\x7d;</a>".toList = some output ∧
      output.collapse = "<a>k \x7bc d\x7d;</a>".toList := by
  have unbroken : ∀ char ∈ "<a>k \x7bc d\x7d;</a>".toList, Text.isLineBreak char = false := by
    have all : ("<a>k \x7bc d\x7d;</a>".toList.all fun char => !Text.isLineBreak char) = true := by
      decide
    simpa using List.all_eq_true.mp all
  have starts : Text.StartsInked "<a>k \x7bc d\x7d;</a>".toList := by decide
  have ends : Text.EndsInked "<a>k \x7bc d\x7d;</a>".toList := by decide
  have tight : (Layout.ofOptions
      { LayoutOptions.tags with indentWidth := 3, lineEnding := .crlf }).Tight
        "<a>k \x7bc d\x7d;</a>".toList := by
    apply Layout.tight_of_places
    decide
  exact ⟨unbroken, starts, ends, tight,
    collapse_reflow? _ (.inl ⟨3, .crlf, rfl⟩) _ unbroken starts ends tight⟩

/-- The layout that a text comes with makes no difference. Whatever the candidates, a text is laid
out in the same way when its lines are compressed or collapsed before, and when blanks with a line
break among them are put between two of its characters that are no blanks. Compressing and
collapsing a second time changes nothing. -/
theorem reflow?_ignores_input_layout (options : LayoutOptions) :
    (∀ text : Text,
      (Layout.ofOptions options).reflow? text.compress = (Layout.ofOptions options).reflow? text ∧
      (Layout.ofOptions options).reflow? text.collapse = (Layout.ofOptions options).reflow? text) ∧
    (∀ before space after : Text, before.EndsInked → after.StartsInked → space.blank = true →
      (∃ char ∈ space, Text.isLineBreak char = true) →
      (Layout.ofOptions options).reflow? (before ++ space ++ after) =
        (Layout.ofOptions options).reflow? (before ++ after)) ∧
    ∀ text : Text, text.compress.compress = text.compress ∧
      text.collapse.collapse = text.collapse := by
  refine ⟨?_, ?_, ?_⟩
  · intro text
    constructor
    · exact Layout.reflow?_eq_of_unbroken_eq text.unbroken_compress
    · exact Layout.reflow?_eq_of_unbroken_eq text.unbroken_collapse
  · intro before space after ends starts isBlank breaks
    apply Layout.reflow?_eq_of_unbroken_eq
    calc Text.unbroken (before ++ space ++ after)
        = before.unbroken ++ after.unbroken :=
          Text.withoutBreaks_append_space isBlank breaks before after
      _ = Text.unbroken (before ++ after) := (Text.withoutBreaks_append ends starts).symm
  · intro text
    exact ⟨text.compress_of_compress, text.collapse_of_collapse⟩

/-- A break between other blanks, put between a bracket and a text. -/
theorem reflow?_ignores_input_layout_of_break :
    Text.EndsInked "\x7b".toList ∧ Text.StartsInked "a,b\x7d".toList ∧
    Text.blank " \r\n\t".toList = true ∧
    (∃ char ∈ " \r\n\t".toList, Text.isLineBreak char = true) ∧
    (Layout.ofOptions .tags).reflow? ("\x7b".toList ++ " \r\n\t".toList ++ "a,b\x7d".toList) =
      (Layout.ofOptions .tags).reflow? ("\x7b".toList ++ "a,b\x7d".toList) := by
  have ends : Text.EndsInked "\x7b".toList := by decide
  have starts : Text.StartsInked "a,b\x7d".toList := by decide
  have isBlank : Text.blank " \r\n\t".toList = true := by decide
  have breaks : ∃ char ∈ " \r\n\t".toList, Text.isLineBreak char = true :=
    ⟨'\r', by decide, by decide⟩
  exact ⟨ends, starts, isBlank, breaks,
    (reflow?_ignores_input_layout .tags).2.1 _ _ _ ends starts isBlank breaks⟩

end Reflow
