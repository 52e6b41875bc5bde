import Reflow.Proofs.Pattern.Front
import Reflow.Proofs.Rewrite.Rules

/-!
# Records in parentheses

Many programs dump a record with its members in parentheses. A layout by brackets opens a level at a
parenthesis as it does at a brace, but no rule turns a parenthesis into anything: each of them
leaves the line with the name of the record as it is. What the rules leave starts with a letter of
that name, so that behind the brace that is put before it no key follows, and no such dump is turned
into a document.
-/

namespace Reflow

open Pattern

/-! ## First lines -/

/-- A text that starts with a line: behind it comes a line feed or nothing. -/
def Text.FirstLine (line text : Text) : Prop :=
  ∃ below, text = line ++ below ∧ ∀ char, below.head? = some char → char = '\n'

variable {line text : Text}

/-- A rule that leaves a line as it is where it is the first one of a text. -/
def RewriteRule.KeepsLine (rule : RewriteRule) (line : Text) : Prop :=
  ∀ ⦃text : Text⦄, Text.FirstLine line text →
    ∃ result, rule.apply text = .ok result ∧ Text.FirstLine line result

/-- A rule keeps a line if the search for its pattern passes over it. -/
theorem RewriteRule.keepsLine_of_passes {rule : RewriteRule} {expression : Expression}
    (read : Expression.read rule.pattern = .ok expression)
    (passes : ∀ below : Text, (∀ char, below.head? = some char → char = '\n') →
      expression.pattern.Passes line below) : rule.KeepsLine line := by
  rintro _ ⟨below, rfl, feed⟩
  obtain ⟨result, replaced, first⟩ := (passes below feed).exists_replaceAll fun found =>
    (Template.read rule.replacement).flatMap (found.fill expression.names)
  refine ⟨line ++ result, ?_, result, rfl, first ▸ feed⟩
  rw [RewriteRule.apply, read]
  exact congrArg Except.ok replaced

/-- Rules that all keep a line keep it when they are applied one after the other. -/
theorem exists_rewrite_of_keepsLine {rules : List RewriteRule}
    (each : ∀ rule ∈ rules, rule.enabled = true → rule.KeepsLine line)
    (first : Text.FirstLine line text) :
    ∃ result, rewrite rules text = .ok result ∧ Text.FirstLine line result := by
  have enabled : ∀ rule ∈ rules.filter (·.enabled), rule.KeepsLine line := fun rule listed =>
    each rule (List.mem_of_mem_filter listed) (List.of_mem_filter listed)
  rw [rewrite]
  generalize rules.filter (·.enabled) = applied at enabled ⊢
  induction applied generalizing text with
  | nil => exact ⟨text, rfl, first⟩
  | cons rule others ih =>
      rw [List.forall_mem_cons] at enabled
      obtain ⟨next, applied, still⟩ := enabled.1 first
      rw [Dump.foldlM_cons_eq applied]
      exact ih still enabled.2

namespace Dump

/-! ## The line of a name -/

/-- The line that opens a record in parentheses. -/
def title (name : Label) : Text :=
  name.text ++ ['(']

theorem made_title (name : Label) : Made ['('] (title name) :=
  (Made.label name).append (.cons (by decide) (List.forall_mem_nil _))

section Passes

variable (name : Label) {below : Text} (feed : ∀ char, below.head? = some char → char = '\n')
include feed

theorem passes_title_of_starts {pattern : Pattern} {signs : List Char}
    (starts : pattern.Starts (· ∈ signs)) (noFeed : '\n' ∉ signs)
    (apart : (signs.all fun sign => !Unicode.isWord sign && !(['('].contains sign)) = true) :
    pattern.Passes (title name) below := by
  refine starts.passes ((made_title name).lacks apart) fun char first => ?_
  rwa [feed char first]

/-- A search for a member passes over the line, since there is no equals sign on it. -/
theorem passes_title_of_equals {first : Pattern} {others : List Pattern}
    (holds : first.Holds (· ≠ '\n')) :
    (Pattern.sequence (first :: sign '=' :: others)).Passes (title name) below := by
  have needs : (Pattern.seq first (sign '=')).Needs (· ∈ ['=']) :=
    .inr fun char same => List.mem_singleton.mpr (eq_of_beq same)
  have holdsBoth : (Pattern.seq first (sign '=')).Holds (· ≠ '\n') := by
    refine ⟨holds, fun char same => ?_⟩
    rw [eq_of_beq same]
    decide
  refine needs.passes holdsBoth ((made_title name).lacks (by decide)) fun char first => ?_
  exact not_not.mpr (feed char first)

/-- What opens an object are brackets of other kinds. -/
theorem passes_title_openPattern : openPattern.Passes (title name) below := by
  have made : Made [] name.text := .label name
  have inName : (openPattern.followedBy []).Passes name.text (['('] ++ below) := by
    refine needs_openPattern.passes holds_openPattern (made.lacks (by decide)) fun char first => ?_
    cases first
    decide
  have behindName : openPattern.Passes ['('] below := by
    refine starts_openPattern.passes ?_ fun char first => ?_
    · exact List.forall_mem_singleton.mpr (by decide)
    · rw [feed char first]
      decide
  exact inName.append behindName

end Passes

theorem keepsLine_title (name : Label) :
    ∀ rule ∈ rules, rule.enabled = true → rule.KeepsLine (title name) := by
  -- The rules come in the order of the list, and the last one is not applied.
  simp only [rules, List.forall_mem_cons]
  refine ⟨?_, ?_, ?_, ?_, ?_, ?_, ?_, ?_, ?_, List.forall_mem_nil _⟩ <;> intro enabled
  · refine RewriteRule.keepsLine_of_passes read_dropNull fun below feed => ?_
    refine passes_title_of_equals name feed fun char inside => ?_
    simpa [inLine, CharSet.contains] using inside
  · exact RewriteRule.keepsLine_of_passes read_openObject fun below feed =>
      passes_title_openPattern name feed
  · exact RewriteRule.keepsLine_of_passes read_closeObject fun below feed =>
      passes_title_of_starts name feed starts_closePattern (by decide) (by decide)
  · exact RewriteRule.keepsLine_of_passes read_quoteMember fun below feed =>
      passes_title_of_equals name feed ne_feed_of_isWord
  · exact RewriteRule.keepsLine_of_passes read_quoteLastMember fun below feed =>
      passes_title_of_equals name feed ne_feed_of_isWord
  · exact RewriteRule.keepsLine_of_passes read_dropComma fun below feed =>
      passes_title_of_starts name feed starts_danglingPattern (by decide) (by decide)
  · exact RewriteRule.keepsLine_of_passes read_bareBoolean fun below feed =>
      passes_title_of_starts name feed starts_booleanPattern (by decide) (by decide)
  · exact RewriteRule.keepsLine_of_passes read_dropIndentedComma fun below feed =>
      passes_title_of_starts name feed starts_danglingPattern (by decide) (by decide)
  · cases enabled

/-! ## The layout -/

theorem isLineBreak_title (name : Label) :
    ∀ char ∈ title name, Text.isLineBreak char = false := by
  have lacks : ∀ char ∈ title name, char ∉ ['\n', '\r'] := (made_title name).lacks (by decide)
  intro char member
  simpa [Text.isLineBreak] using lacks char member

theorem endsInked_title (name : Label) : (title name).EndsInked :=
  .append_of_ne_nil (List.cons_ne_nil _ _) (by decide)

theorem exists_title_eq (name : Label) :
    ∃ char others, title name = char :: others ∧ Unicode.isWord char = true := by
  obtain ⟨char, others, equal⟩ := List.exists_cons_of_ne_nil name.notEmpty
  have isWord := name.isWord char (equal ▸ List.mem_cons_self)
  refine ⟨char, others ++ ['('], ?_, isWord⟩
  rw [title, equal, List.cons_append]

theorem startsInked_title (name : Label) : (title name).StartsInked := by
  obtain ⟨char, others, equal, isWord⟩ := exists_title_eq name
  rw [equal, Text.startsInked_cons_iff]
  exact Text.isBlank_eq_false_of_isWord isWord

theorem trim_title_append (name : Label) (rest : Text) :
    (title name ++ rest).trim = title name ++ rest.trimEnd := by
  have starts : (title name ++ rest).StartsInked :=
    (startsInked_title name).append_of_ne_nil (by simp [title])
  rw [Text.trim, Text.trimStart_eq_self starts, Text.trimEnd_append (endsInked_title name)]

/-- Behind the line, blanks and line breaks are dropped as anywhere else. -/
theorem exists_unbroken_title_append (name : Label) (rest : Text) :
    ∃ behind, (title name ++ rest).unbroken = title name ++ behind := by
  have cut := Text.splitAt_append_of_not_mem (isLineBreak_title name) rest
  rw [Text.unbroken, Text.withoutBreaks, cut, List.map_cons, List.flatten_cons, trim_title_append,
    List.append_assoc]
  exact ⟨_, rfl⟩

/-- The row of the line. -/
def titleRow (name : Label) : Row where
  closing := none
  gap := []
  body := name.text
  ending := some (.opening, { text := ['('], kind := .literal })

theorem written_titleRow (name : Label) : (titleRow name).written = title name := by
  simp [Row.written, Row.closingText, Row.endingText, titleRow, title]

theorem fits_titleRow (name : Label) : (Layout.ofOptions .brackets).Fits (titleRow name) where
  closing has := by cases has
  ending has := by
    cases has
    exact ⟨⟨['('], by rfl⟩, TokenClass.noConfusion⟩
  spaces := List.forall_mem_nil _
  stops := by
    intro space
    have isWord := name.isWord ' ' (List.mem_of_mem_head? space)
    exact Unicode.ne_of_isWord isWord (by decide) rfl

theorem firstLine_joinWith (line : Text) (others : List Text) :
    Text.FirstLine line (Text.joinWith ['\n'] (line :: others)) := by
  cases others with
  | nil => exact ⟨[], (List.append_nil line).symm, by simp⟩
  | cons next others =>
      rw [Text.joinWith_cons (List.cons_ne_nil next others), List.append_assoc]
      exact ⟨_, rfl, by simp⟩

/-- The row of the line comes before those of whatever is behind it. -/
theorem exists_lays_titleRow (name : Label) (rest : Text) :
    ∃ rows, (Layout.ofOptions .brackets).Lays (titleRow name :: rows) ∧
      (title name ++ rest).unbroken = Row.sources (titleRow name :: rows) := by
  have regular : (Layout.ofOptions .brackets).Regular := (Json.singleSigns_brackets 4 .lf).regular
  obtain ⟨behind, unbroken⟩ := exists_unbroken_title_append name rest
  obtain ⟨next, rows, lays, opens, rfl⟩ := Layout.exists_lays regular behind
  refine ⟨next :: rows, ?_, ?_⟩
  · refine .cons (fits_titleRow name) (Line.plain_body (.opening none name) _) ?_ lays
    simp [Layout.Meets, titleRow, opens]
  · rw [unbroken, Row.sources_cons]
    simp [Row.source, Row.closingText, Row.endingText, titleRow, title]

theorem exists_reflow?_title_append (name : Label) (rest : Text) :
    ∃ text, (Layout.ofOptions .brackets).reflow? (title name ++ rest) = some text ∧
      Text.FirstLine (title name) text := by
  have regular : (Layout.ofOptions .brackets).Regular := (Json.singleSigns_brackets 4 .lf).regular
  obtain ⟨rows, lays, divided⟩ := exists_lays_titleRow name rest
  have first : Row.line (Layout.ofOptions .brackets).options.indentation
      ((titleRow name).level 0, titleRow name) = title name := by
    rw [Row.line, written_titleRow]
    rfl
  have shown : (title name).blank = false := by
    obtain ⟨char, others, equal, isWord⟩ := exists_title_eq name
    rw [equal, Text.blank, List.all_cons, Text.isBlank_eq_false_of_isWord isWord, Bool.false_and]
  obtain ⟨others, laidOut⟩ : ∃ others,
      (Layout.ofOptions .brackets).lines? (title name ++ rest) = some (title name :: others) := by
    rw [Layout.lines?_eq regular lays rfl divided, Row.lines, Row.placed, List.map_cons, first,
      List.filter_cons_of_pos (by simp [shown])]
    exact ⟨_, rfl⟩
  refine ⟨_, ?_, firstLine_joinWith (title name) others⟩
  rw [Layout.reflow?, laidOut]
  rfl

/-! ## The document -/

section Document

variable {char : Char} (isWord : Unicode.isWord char = true) (rest : Text)
include isWord

/-- Behind a brace, a letter starts no key. -/
theorem readDocument_of_isWord :
    Json.readDocument ('{' :: char :: rest) = .error (.atNext .keyNotString (char :: rest)) := by
  have noSpace : Json.isSpace char = false := by
    rw [Bool.eq_false_iff]
    intro space
    cases (Text.isBlank_eq_false_of_isWord isWord).symm.trans (Json.isBlank_of_isSpace space)
  have skipped : Json.skipSpace (char :: rest) = char :: rest :=
    List.dropWhile_cons_of_neg (by simp [noSpace])
  have noBrace : char ≠ '}' := Unicode.ne_of_isWord isWord (by decide)
  have noQuote : char ≠ '"' := Unicode.ne_of_isWord isWord (by decide)
  have next : Json.nextMember true (char :: rest) =
      .error (.atNext .keyNotString (char :: rest)) := by
    simp [Json.nextMember, skipped, noQuote]
  have members : Json.readMembers (Json.readValue 126) (List.length (char :: rest) + 1) true
      (char :: rest) = .error (.atNext .keyNotString (char :: rest)) := by
    rw [Json.readMembers, next]
    rfl
  have value : Json.readValue Json.nestingLimit ('{' :: char :: rest) =
      .error (.atNext .keyNotString (char :: rest)) := by
    change (Json.readMembers (Json.readValue 126) (List.length (char :: rest) + 1) true
      (char :: rest) >>= fun found =>
        pure (Json.Value.object (Json.collectMembers found.1), found.2)) = _
    rw [members]
    rfl
  rw [Json.readDocument, value]
  rfl

/-- The fault is noticed at the second byte of the first line. -/
theorem ofRemaining_of_isWord :
    Json.Location.ofRemaining ('{' :: char :: rest) (Text.byteLength (char :: rest) - 1) =
      { line := 1, column := 2 } := by
  have brace : '{'.utf8Size = 1 := rfl
  have size : min char.utf8Size 1 = 1 := Nat.min_eq_right char.utf8Size_pos
  have noFeed : char ≠ '\n' := ne_feed_of_isWord char isWord
  have positive := Text.byteLength_pos (List.cons_ne_nil char rest)
  have consumed : Text.byteLength ('{' :: char :: rest) - (Text.byteLength (char :: rest) - 1) =
      2 := by
    rw [Text.byteLength, brace]
    omega
  rw [Json.Location.ofRemaining, consumed]
  cases rest <;> simp [Json.Location.advance, brace, noFeed, size]

theorem reformat_of_isWord :
    Json.reformat ('{' :: char :: rest) =
      .error (.malformed .keyNotString { index := 1, row := 0, column := 1 }) := by
  have notBlank : Text.blank ('{' :: char :: rest) = false := rfl
  have place := ofRemaining_of_isWord isWord rest
  rw [Json.reformat, Json.parse, notBlank, readDocument_of_isWord isWord]
  simp only [Json.ReadError.atNext, place]
  rfl

end Document

/-- No dump of a record in parentheses is turned into a document: whatever stands behind the name
and the parenthesis, be it words as members or brackets of any kind, the fault that is reported is
the name, which is no key. -/
theorem toDocument_parenthesis (name : Label) (rest : Text) :
    toDocument (name.text ++ '(' :: rest) =
      .error (.document (.malformed .keyNotString { index := 1, row := 0, column := 1 })) := by
  have divided : name.text ++ '(' :: rest = title name ++ rest := by simp [title]
  obtain ⟨laidOut, reflowed, first⟩ := exists_reflow?_title_append name rest
  obtain ⟨result, rewritten, below, rfl, -⟩ :=
    exists_rewrite_of_keepsLine (keepsLine_title name) first
  obtain ⟨char, others, equal, isWord⟩ := exists_title_eq name
  have noBrace : char ≠ '{' := Unicode.ne_of_isWord isWord (by decide)
  have noBracket : char ≠ '[' := Unicode.ne_of_isWord isWord (by decide)
  have wrapped : wrap (title name ++ below).trim =
      '{' :: char :: (others ++ below.trimEnd ++ ['}']) := by
    rw [trim_title_append, equal, List.cons_append]
    simp [wrap, noBrace, noBracket]
  have refused := reformat_of_isWord isWord (others ++ below.trimEnd ++ ['}'])
  rw [divided]
  simp only [toDocument, reflowed, rewritten, wrapped, refused, Except.mapError, bind, Except.bind]

end Dump

end Reflow
