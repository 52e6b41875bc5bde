import Mathlib
import Reflow.Json.Document
import Reflow.Proofs.Json.Breaks
import Reflow.Proofs.Json.Reading
import Reflow.Proofs.Layout.Preset
import Reflow.Proofs.Layout.Row

/-!
# Documents laid out

Laying out a text moves the blanks around its tokens. If every part of a document is a token or has
no token in it, then these blanks are between the parts, so what is laid out holds the same parts
and is read as the same value. For brackets this takes that no bracket and no separator stands
inside of a string.
-/

namespace Reflow.Json

/-! ## The scan over parts -/

/-- A part that a layout writes as it is: a token, or a text in which no token starts. -/
def LeavesWhole (layout : Layout) (part : Text) : Prop :=
  (∃ role token, layout.HasToken role token ∧ token.text = part) ∨
    ∀ after, layout.Plain part after

variable {layout : Layout} {parts : List Text} {text : Text} {indentation : Int → Text}

/-- The lines that marks draw, the current one first. -/
def drawnLines (indentation : Int → Text) (marks : List Mark) : List Text :=
  (Mark.draw indentation marks).1 :: (Mark.draw indentation marks).2

/-- What a token draws holds the token, and then the parts of what follows. -/
theorem Lined.token {role : TokenClass} {level : Int} {token : Text} {marks : List Mark}
    (indents : ∀ level, Space (indentation level))
    (lined : Lined parts (drawnLines indentation marks)) :
    Lined (token :: parts) (drawnLines indentation (role.marks level token ++ marks)) := by
  by_cases closes : role = .closing
  · subst closes
    exact ((lined.part_append token).space_append (indents _)).turn
  · rw [drawnLines, Layout.draw_ending indentation closes]
    have turned := (lined.space_append (indents (role.levelBehind level))).turn
    simpa using turned.part_append token

theorem plain_of_space (regular : layout.Regular) {space : Text} (blank : Space space)
    (after : Text) : layout.Plain space after := by
  intro front char back equal
  have listed : char ∈ space := by
    rw [equal]
    exact List.mem_append_right _ List.mem_cons_self
  exact regular.classify?_eq_none_of_isBlank (isBlank_of_isSpace (blank char listed)) _

/-- Copied text comes before what is drawn on the current line. -/
theorem drawnLines_append (copied : Text) (marks : List Mark) :
    drawnLines indentation (copied.map (.write [·]) ++ marks) =
      (copied ++ (Mark.draw indentation marks).1) :: (Mark.draw indentation marks).2 := by
  rw [drawnLines, Layout.draw_append]

/-- Parts that are scanned wherever blanks are between them, and drawn on lines that hold them. -/
def Scans (layout : Layout) (indentation : Int → Text) (parts : List Text) : Prop :=
  ∀ (text : Text) (level : Int), Spaced parts text →
    ∃ marks, layout.scan level false text = some marks ∧
      Lined parts (drawnLines indentation marks)

theorem scans_nil (regular : layout.Regular) : Scans layout indentation [] := by
  intro text level spaced
  obtain ⟨blank⟩ := spaced
  have scanned := Layout.scan_append (plain_of_space regular blank []) level
  rw [Layout.scan_nil, List.append_nil] at scanned
  refine ⟨text.map (Mark.write [·]) ++ [], scanned, ?_⟩
  rw [drawnLines_append]
  exact .cons (.nil (blank.append Space.nil)) .nil

theorem Scans.start {part rest : Text} (regular : layout.Regular)
    (indents : ∀ level, Space (indentation level)) (solid : ∀ part ∈ parts, Solid part)
    (whole : LeavesWhole layout part) (scans : Scans layout indentation parts) (level : Int)
    (spaced : Spaced parts rest) :
    ∃ marks, layout.scan level false (part ++ rest) = some marks ∧
      Lined (part :: parts) (drawnLines indentation marks) := by
  rcases whole with ⟨role, token, known, rfl⟩ | plain
  · have isBlank : ∀ char, (char == ' ') = true → Text.isBlank char = true := by
      intro char space
      rw [eq_of_beq space]
      decide
    obtain ⟨marks, scanned, lined⟩ :=
      scans _ (role.levelBehind level) (spaced.dropWhile solid isBlank)
    refine ⟨role.marks level token.text ++ marks, ?_, lined.token indents⟩
    rw [regular.scan_token known, regular.scan_skip, scanned]
    rfl
  · obtain ⟨marks, scanned, lined⟩ := scans rest level spaced
    refine ⟨part.map (.write [·]) ++ marks, ?_, ?_⟩
    · rw [Layout.scan_append (plain rest), scanned]
      rfl
    · rw [drawnLines_append]
      exact lined.part_append part

theorem Scans.cons {part : Text} (regular : layout.Regular)
    (indents : ∀ level, Space (indentation level)) (solid : ∀ part ∈ parts, Solid part)
    (whole : LeavesWhole layout part) (scans : Scans layout indentation parts) :
    Scans layout indentation (part :: parts) := by
  intro text level spaced
  cases spaced with
  | @cons space _ _ rest blank spaced =>
      obtain ⟨marks, scanned, lined⟩ := scans.start regular indents solid whole level spaced
      refine ⟨space.map (.write [·]) ++ marks, ?_, ?_⟩
      · rw [Layout.scan_append (plain_of_space regular blank _), scanned]
        rfl
      · rw [drawnLines_append]
        exact lined.space_append blank

/-- A scan of the parts of a document draws lines that hold them. -/
theorem scans_of_leavesWhole (regular : layout.Regular)
    (indents : ∀ level, Space (indentation level)) (solid : ∀ part ∈ parts, Solid part)
    (whole : ∀ part ∈ parts, LeavesWhole layout part) : Scans layout indentation parts := by
  induction parts with
  | nil => exact scans_nil regular
  | cons part parts ih =>
      rw [List.forall_mem_cons] at solid whole
      exact (ih solid.2 whole.2).cons regular indents solid.2 whole.1

/-! ## Documents -/

theorem space_indentation (options : LayoutOptions) (level : Int) :
    Space (options.indentation level) := by
  intro char listed
  rw [LayoutOptions.eq_space_of_mem_indentation listed]
  decide

theorem space_lineEnding (lineEnding : LineEnding) : Space lineEnding.text := by
  cases lineEnding with
  | crlf => exact List.forall_mem_cons.mpr ⟨by decide, List.forall_mem_singleton.mpr (by decide)⟩
  | lf => exact List.forall_mem_singleton.mpr (by decide)

/-- A text laid out holds the same parts, if each of them is left whole. -/
theorem exists_reflow?_spaced {options : LayoutOptions}
    (regular : (Layout.ofOptions options).Regular) (solid : ∀ part ∈ parts, Solid part)
    (unbroken : ∀ part ∈ parts, ∀ char ∈ part, Text.isLineBreak char = false)
    (whole : ∀ part ∈ parts, LeavesWhole (.ofOptions options) part) (spaced : Spaced parts text) :
    ∃ output, (Layout.ofOptions options).reflow? text = some output ∧ Spaced parts output := by
  obtain ⟨marks, scanned, lined⟩ := scans_of_leavesWhole regular (space_indentation options) solid
    whole _ 0 (spaced.withoutBreaks solid unbroken)
  have blanks : ∀ line : Text, (!line.blank) = false → line.blank = true := fun _ => by simp
  refine ⟨_, ?_, (lined.filter blanks solid).joinWith (space_lineEnding options.lineEnding)⟩
  rw [Layout.reflow?, Layout.lines?, scanned]
  rfl

/-! ## The characters inside of strings -/

/-- The characters between the quotes of the strings in a text. `inside` tells whether the text
starts inside of a string. -/
def insideStrings : (inside : Bool) → Text → Text
  | _, [] => []
  | false, char :: rest => insideStrings (char == '"') rest
  | true, '"' :: rest => insideStrings false rest
  | true, '\\' :: char :: rest => '\\' :: char :: insideStrings true rest
  | true, char :: rest => char :: insideStrings true rest

theorem insideStrings_append {front : Text} (unquoted : ∀ char ∈ front, char ≠ '"')
    (rest : Text) : insideStrings false (front ++ rest) = insideStrings false rest := by
  induction front with
  | nil => rfl
  | cons char front ih =>
      rw [List.forall_mem_cons] at unquoted
      rw [List.cons_append, insideStrings, beq_eq_false_iff_ne.mpr unquoted.1]
      exact ih unquoted.2

theorem insideStrings_plain {char : Char} (plain : isPlain char = true) (rest : Text) :
    insideStrings true (char :: rest) = char :: insideStrings true rest := by
  simp only [isPlain, Bool.and_eq_true, bne_iff_ne] at plain
  rw [insideStrings]
  · exact fun same => plain.1.1 same
  · exact fun _ _ same => absurd same plain.1.2

/-- An escape does not end a string. -/
theorem Escape.insideStrings {taken : Text} {char : Char} (escape : Escape taken char)
    (rest : Text) :
    insideStrings true ('\\' :: (taken ++ rest)) = '\\' :: (taken ++ insideStrings true rest) := by
  cases escape with
  | short known => rfl
  | code value =>
      have plain := isPlain_of_hexValue? value
      simp only [List.forall_mem_cons] at plain
      simp [Json.insideStrings, insideStrings_plain, plain]
  | halves highValue _ lowValue =>
      have plain := isPlain_of_hexValue? highValue
      have alsoPlain := isPlain_of_hexValue? lowValue
      simp only [List.forall_mem_cons] at plain alsoPlain
      simp [Json.insideStrings, insideStrings_plain, plain, alsoPlain]

/-- The body of a literal is inside of a string, up to the quote that closes it. -/
theorem Literal.insideStrings {body text : Text} (literal : Literal body text) (rest : Text) :
    insideStrings true (body ++ '"' :: rest) = body ++ insideStrings false rest := by
  induction literal with
  | nil => rfl
  | plain plain _ ih => rw [List.cons_append, insideStrings_plain plain, ih, List.cons_append]
  | escape escaped _ ih =>
      rw [List.cons_append, List.append_assoc, escaped.insideStrings, ih, List.cons_append,
        List.append_assoc]

/-- A part without quotes, or a literal in quotes with certain characters between these. -/
def Sealed (Property : Char → Prop) (part : Text) : Prop :=
  (∀ char ∈ part, char ≠ '"') ∨
    ∃ body text, part = '"' :: (body ++ ['"']) ∧ Literal body text ∧ ∀ char ∈ body, Property char

/-- What holds of all characters inside of strings holds of those between the quotes of a part. -/
theorem sealed_of_insideStrings {Property : Char → Prop}
    (anyway : ∀ part ∈ parts, Sealed (fun _ => True) part) (spaced : Spaced parts text)
    (inside : ∀ char ∈ insideStrings false text, Property char) :
    ∀ part ∈ parts, Sealed Property part := by
  induction spaced with
  | nil => exact List.forall_mem_nil _
  | @cons space part parts rest blank _ ih =>
      have unquoted : ∀ char ∈ space, char ≠ '"' := by
        rintro char listed rfl
        cases blank '"' listed
      rw [insideStrings_append unquoted] at inside
      rw [List.forall_mem_cons] at anyway ⊢
      rcases anyway.1 with plain | ⟨body, content, rfl, literal, -⟩
      · rw [insideStrings_append plain] at inside
        exact ⟨.inl plain, ih anyway.2 inside⟩
      · have behindQuote : insideStrings false ('"' :: (body ++ ['"']) ++ rest) =
            insideStrings true (body ++ '"' :: rest) := by
          simp [insideStrings]
        rw [behindQuote, literal.insideStrings, List.forall_mem_append] at inside
        exact ⟨.inr ⟨body, content, rfl, literal, inside.1⟩, ih anyway.2 inside.2⟩

/-! ## Brackets -/

/-- Brackets of three kinds, and the separators. -/
def brackets : List Char :=
  ['{', '}', '[', ']', '(', ')', ';', ',']

section

variable {options : LayoutOptions} (signs : options.SingleSigns)
include signs

/-- A single character is a token or not, whatever follows it. -/
theorem leavesWhole_singleton (char : Char) : LeavesWhole (.ofOptions options) [char] := by
  cases found : (Layout.ofOptions options).classify? [char] with
  | some match' =>
      obtain ⟨role, token⟩ := match'
      obtain ⟨rfl, -⟩ := signs.eq_of_classify? found
      exact .inl ⟨role, _, ⟨[char], found⟩, rfl⟩
  | none =>
      refine .inr fun after => .cons ?_ (.nil after)
      rw [List.cons_append, signs.classify?_cons char _ []]
      exact found

theorem plain_of_unlisted {part : Text}
    (unlisted : ∀ char ∈ part, ∀ role, [char] ∉ options.candidates role) (after : Text) :
    (Layout.ofOptions options).Plain part after := by
  intro front char back equal
  cases found : (Layout.ofOptions options).classify? (char :: back ++ after) with
  | none => rfl
  | some match' =>
      obtain ⟨role, token⟩ := match'
      obtain ⟨-, once⟩ := signs.eq_of_classify? found
      have listed : char ∈ part := by
        rw [equal]
        exact List.mem_append_right _ List.mem_cons_self
      exact absurd (List.count_pos_iff.mp (once ▸ Nat.one_pos)) (unlisted char listed role)

theorem leavesWhole_of_unlisted {part : Text}
    (unlisted : ∀ char ∈ part, ∀ role, [char] ∉ options.candidates role) :
    LeavesWhole (.ofOptions options) part :=
  .inr (plain_of_unlisted signs unlisted)

end

variable {indentWidth : Nat} {lineEnding : LineEnding}

theorem singleSigns_brackets (indentWidth : Nat) (lineEnding : LineEnding) :
    LayoutOptions.SingleSigns { LayoutOptions.brackets with indentWidth, lineEnding } := by
  intro candidate listed
  simp only [LayoutOptions.brackets, LayoutOptions.tags, List.cons_append, List.nil_append,
    List.mem_cons, List.not_mem_nil, or_false] at listed
  rcases listed with rfl | rfl | rfl | rfl | rfl | rfl | rfl | rfl <;> exact ⟨_, rfl, by decide⟩

theorem mem_brackets_of_candidate {role : TokenClass} {char : Char}
    (listed : [char] ∈
      LayoutOptions.candidates { LayoutOptions.brackets with indentWidth, lineEnding } role) :
    char ∈ brackets := by
  cases role <;>
    simp only [LayoutOptions.candidates, LayoutOptions.brackets, LayoutOptions.tags, List.mem_cons,
      List.cons.injEq, and_true, List.not_mem_nil, or_false] at listed <;>
    simp only [brackets, List.mem_cons, List.not_mem_nil, or_false] <;> tauto

/-- A scalar other than a string has neither quotes nor brackets in it. -/
theorem Scalar.unquoted_or_sealed {part : Text} {value : Value} (scalar : Scalar part value) :
    (∀ char ∈ part, char ≠ '"' ∧ char ∉ brackets) ∨
      '"' ∈ part ∧ Sealed (fun _ => True) part := by
  cases scalar with
  | null => exact .inl (List.forall_iff_forall_mem.mp (by decide))
  | bool value =>
      refine .inl (List.forall_iff_forall_mem.mp ?_)
      cases value <;> decide
  | string literal =>
      exact .inr ⟨List.mem_cons_self, .inr ⟨_, _, rfl, literal, fun _ _ => trivial⟩⟩
  | number numeral =>
      have other : ∀ sign ∈ '"' :: brackets, isNumeral sign = false :=
        List.forall_iff_forall_mem.mp (by decide)
      refine .inl fun char listed => not_or.mp fun isSign => ?_
      have numerals := numeral.isNumeral char listed
      rw [other char (List.mem_cons.mpr isSign)] at numerals
      cases numerals

theorem Scalar.leavesWhole {part : Text} {value : Value} (scalar : Scalar part value)
    (isSealed : Sealed (· ∉ brackets) part) :
    LeavesWhole (.ofOptions { LayoutOptions.brackets with indentWidth, lineEnding }) part := by
  refine leavesWhole_of_unlisted (singleSigns_brackets indentWidth lineEnding) ?_
  intro char listed role isCandidate
  have isBracket := mem_brackets_of_candidate isCandidate
  rcases scalar.unquoted_or_sealed with unquoted | ⟨quoted, -⟩
  · exact (unquoted char listed).2 isBracket
  · rcases isSealed with unquoted | ⟨body, content, rfl, -, plain⟩
    · exact unquoted '"' quoted rfl
    · have quoteOutside : '"' ∉ brackets := by decide
      simp only [List.mem_cons, List.mem_append, List.not_mem_nil, or_false] at listed
      rcases listed with rfl | within | rfl
      · exact quoteOutside isBracket
      · exact plain char within isBracket
      · exact quoteOutside isBracket

/-- The quotes in a document are those around the bodies of literals. -/
theorem Denotes.isSealed {depth : Nat} {value : Value} (denotes : Denotes depth parts value) :
    ∀ part ∈ parts, Sealed (fun _ => True) part := by
  refine denotes.forall_mem (fun sign isSign => .inl ?_) fun scalar => ?_
  · have other : ∀ sign ∈ signs, sign ≠ '"' := List.forall_iff_forall_mem.mp (by decide)
    exact List.forall_mem_singleton.mpr (other sign isSign)
  · rcases scalar.unquoted_or_sealed with unquoted | ⟨-, isSealed⟩
    · exact .inl fun char listed => (unquoted char listed).1
    · exact isSealed

theorem Denotes.leavesWhole {depth : Nat} {value : Value} (denotes : Denotes depth parts value)
    (spaced : Spaced parts text) (outside : ∀ char ∈ insideStrings false text, char ∉ brackets) :
    ∀ part ∈ parts,
      LeavesWhole (.ofOptions { LayoutOptions.brackets with indentWidth, lineEnding }) part := by
  have isSealed := sealed_of_insideStrings denotes.isSealed spaced outside
  have each : ∀ part ∈ parts, Sealed (· ∉ brackets) part →
      LeavesWhole (.ofOptions { LayoutOptions.brackets with indentWidth, lineEnding }) part :=
    denotes.forall_mem
      (fun sign _ _ => leavesWhole_singleton (singleSigns_brackets indentWidth lineEnding) sign)
      Scalar.leavesWhole
  exact fun part listed => each part listed (isSealed part listed)

/-- Laying out a document keeps its meaning. If no bracket and no separator stands inside of a
string, then what a layout of brackets makes of a document is read as the same value, whatever the
width of a level and the line ending, so without blanks it is the same text. -/
theorem minify_reflow? {text : Text} {value : Value} (read : parse text = .ok value)
    (outside : ∀ char ∈ insideStrings false text, char ∉ ['{', '}', '[', ']', '(', ')', ';', ','])
    (indentWidth : Nat) (lineEnding : LineEnding) :
    ∃ output,
      (Layout.ofOptions { LayoutOptions.brackets with indentWidth, lineEnding }).reflow? text =
        some output ∧
      minify output = minify text ∧ minify text = .ok value.compact := by
  obtain ⟨parts, spaced, denotes⟩ := parse_eq_ok_iff.mp read
  obtain ⟨output, laidOut, spacedToo⟩ :=
    exists_reflow?_spaced (singleSigns_brackets indentWidth lineEnding).regular denotes.solid
      denotes.isLineBreak_eq_false (denotes.leavesWhole spaced outside) spaced
  have readAgain := parse_eq_ok_iff.mpr ⟨parts, spacedToo, denotes⟩
  refine ⟨output, laidOut, ?_, ?_⟩
  · rw [minify, minify, read, readAgain]
  · rw [minify, read]
    rfl

/-- A document with blanks where there need not be any, and in a string, where they stay. -/
theorem minify_reflow?_of_blanks :
    parse "\x7b\"a\" :\t[1,\r\"\u00a0: \"]\x7d".toList =
      .ok (.object [(['a'], .array [.number (.integer 1), .string ['\u00a0', ':', ' ']])]) ∧
    (∀ char ∈ insideStrings false "\x7b\"a\" :\t[1,\r\"\u00a0: \"]\x7d".toList,
      char ∉ ['{', '}', '[', ']', '(', ')', ';', ',']) ∧
    ∃ output,
      (Layout.ofOptions
        { LayoutOptions.brackets with indentWidth := 2, lineEnding := .crlf }).reflow?
          "\x7b\"a\" :\t[1,\r\"\u00a0: \"]\x7d".toList = some output ∧
      minify output = minify "\x7b\"a\" :\t[1,\r\"\u00a0: \"]\x7d".toList ∧
      minify "\x7b\"a\" :\t[1,\r\"\u00a0: \"]\x7d".toList =
        .ok "\x7b\"a\":[1,\"\u00a0: \"]\x7d".toList := by
  have read : parse "\x7b\"a\" :\t[1,\r\"\u00a0: \"]\x7d".toList =
      .ok (.object [(['a'], .array [.number (.integer 1), .string ['\u00a0', ':', ' ']])]) := by
    cbv
  have outside : ∀ char ∈ insideStrings false "\x7b\"a\" :\t[1,\r\"\u00a0: \"]\x7d".toList,
      char ∉ ['{', '}', '[', ']', '(', ')', ';', ','] :=
    List.forall_iff_forall_mem.mp (by decide)
  have compact : Value.compact
      (.object [(['a'], .array [.number (.integer 1), .string ['\u00a0', ':', ' ']])]) =
        "\x7b\"a\":[1,\"\u00a0: \"]\x7d".toList := by
    cbv
  obtain ⟨output, laidOut, same, minified⟩ := minify_reflow? read outside 2 .crlf
  exact ⟨read, outside, output, laidOut, same, minified.trans (congrArg _ compact)⟩

end Reflow.Json
