import Reflow.Proofs.Json.LaidOut
import Reflow.Proofs.Layout.Document
import Reflow.Proofs.Rewrite.Record

/-!
# Records on lines

Laid out by its brackets, a record takes a line for each name with its brace, for each member with a
word and for each closing brace. What the rules change is how such lines are written, never which
lines there are.
-/

namespace Reflow.Dump

/-! ## Lines -/

/-- A line of a record. A comma separates it from the next one, unless that closes the record. -/
inductive Line where
  /-- The name of a record, with the key if it is a member, and its opening brace. -/
  | opening (key : Option Label) (name : Label)
  | member (key word : Label) (separated : Bool)
  | closing (separated : Bool)

namespace Line

def closes : Line → Bool
  | .opening _ _ | .member _ _ _ => false
  | .closing _ => true

/-- Whether a line is separated from the next one by a comma. -/
def separated : Line → Bool
  | .opening _ _ => false
  | .member _ _ separated | .closing separated => separated

/-- Whether another member follows. -/
def goesOn : Line → Bool
  | .opening _ _ => true
  | .member _ _ separated | .closing separated => separated

end Line

/-- Lines in an order in which they may come: a record is closed behind the last of its members. -/
inductive Ordered : List Line → Prop where
  | last {line : Line} (ends : line.goesOn = false) : Ordered [line]
  | cons {line next : Line} {others : List Line} (follows : next.closes = !line.goesOn)
      (more : Ordered (next :: others)) : Ordered (line :: next :: others)

namespace Content

mutual

/-- The lines of a content behind its key. -/
def lines (key : Label) (separated : Bool) : Content → List Line
  | .word label => [.member key label separated]
  | .record name members =>
      .opening (some key) name :: (memberLines members ++ [.closing separated])

/-- The lines of the members of a record. -/
def memberLines : List (Label × Content) → List Line
  | [] => []
  | (key, content) :: members => content.lines key (!members.isEmpty) ++ memberLines members

end

/-- The lines of a record that is not a member. -/
def recordLines (name : Label) (members : List (Label × Content)) : List Line :=
  .opening none name :: (memberLines members ++ [.closing false])

/-- Lines the first of which closes nothing. -/
def Opens (lines : List Line) : Prop :=
  ∃ first others, lines = first :: others ∧ first.closes = false ∧ Ordered (first :: others)

variable {depth : Nat} {content : Content} {members : List (Label × Content)} {next : Line}
  {others : List Line}

theorem opens_memberLines_append (notEmpty : members ≠ [])
    (each : ∀ member ∈ members, ∀ (key : Label) (separated : Bool) (next : Line)
      (others : List Line), next.closes = !separated → Ordered (next :: others) →
        Opens (member.2.lines key separated ++ next :: others))
    (closes : next.closes = true) (ordered : Ordered (next :: others)) :
    Opens (memberLines members ++ next :: others) := by
  induction members with
  | nil => exact absurd rfl notEmpty
  | cons member members ih =>
      obtain ⟨key, content⟩ := member
      rw [List.forall_mem_cons] at each
      rw [memberLines, List.append_assoc]
      cases members with
      | nil => exact each.1 key false next others closes ordered
      | cons second members =>
          obtain ⟨first, more, equal, opens, orderedMore⟩ := ih (List.cons_ne_nil _ _) each.2
          rw [equal]
          exact each.1 key true first more opens orderedMore

/-- The lines of a content come before whatever may come behind it. -/
theorem Fits.opens_lines_append (fits : content.Fits depth) (key : Label) (separated : Bool)
    (follows : next.closes = !separated) (ordered : Ordered (next :: others)) :
    Opens (content.lines key separated ++ next :: others) := by
  induction fits generalizing key separated next others with
  | word label => exact ⟨_, _, rfl, rfl, .cons follows ordered⟩
  | record name notEmpty _ _ ih =>
      have closing : Ordered (.closing separated :: next :: others) := .cons follows ordered
      obtain ⟨first, more, equal, opens, orderedMore⟩ := opens_memberLines_append notEmpty
        (fun member listed key separated _ _ => ih member listed key separated) rfl closing
      refine ⟨.opening (some key) name, first :: more, ?_, rfl, .cons opens orderedMore⟩
      rw [lines, List.cons_append, List.append_assoc, List.singleton_append, equal]

theorem Fits.ordered_recordLines {name : Label} (fits : (Content.record name members).Fits depth) :
    Ordered (recordLines name members) := by
  cases fits with
  | record _ notEmpty _ each =>
      obtain ⟨first, more, equal, opens, ordered⟩ := opens_memberLines_append notEmpty
        (fun member listed key separated _ _ =>
          (each member listed).opens_lines_append key separated)
        rfl (.last rfl : Ordered [.closing false])
      rw [recordLines, equal]
      exact .cons opens ordered

end Content

/-! ## How lines are written -/

/-- A comma, where one is due. -/
def comma (separated : Bool) : Text :=
  if separated then [','] else []

/-- A way to write lines. -/
structure Style where
  opening : (key : Option Label) → (name : Label) → Text
  member : (key word : Label) → (separated : Bool) → Text

/-- A line in a style. -/
def Style.write (style : Style) : Line → Text
  | .opening key name => style.opening key name
  | .member key word separated => style.member key word separated ++ comma separated
  | .closing separated => '}' :: comma separated

/-- What a line holds besides its signs. -/
def Line.body : Line → Text
  | .opening none name => name.text
  | .opening (some key) name => key.text ++ '=' :: name.text
  | .member key word _ => key.text ++ '=' :: word.text
  | .closing _ => []

/-- Lines as they are dumped. -/
def plain : Style where
  opening key name := (Line.opening key name).body ++ ['{']
  member key word separated := (Line.member key word separated).body

/-- The space behind a comma in a dump. -/
def Line.gap (line : Line) : Text :=
  if line.separated then [' '] else []

/-- The part of a dump that a line comes from. -/
def Line.source (line : Line) : Text :=
  plain.write line ++ line.gap

namespace Content

variable {depth : Nat} {content : Content} {members : List (Label × Content)}

theorem flatMap_source_memberLines
    (each : ∀ member ∈ members, ∀ (key : Label) (separated : Bool),
      (member.2.lines key separated).flatMap Line.source =
        key.text ++ '=' :: member.2.write ++ if separated then [',', ' '] else []) :
    (memberLines members).flatMap Line.source =
      Text.joinWith [',', ' '] (writeMembers members) := by
  induction members with
  | nil => rfl
  | cons member members ih =>
      obtain ⟨key, content⟩ := member
      rw [List.forall_mem_cons] at each
      rw [memberLines, List.flatMap_append, each.1, ih each.2, writeMembers]
      cases members with
      | nil => simp [writeMembers, Text.joinWith]
      | cons second members =>
          rw [Text.joinWith_cons (by simp [writeMembers])]
          simp

theorem Fits.flatMap_source_lines (fits : content.Fits depth) (key : Label) (separated : Bool) :
    (content.lines key separated).flatMap Line.source =
      key.text ++ '=' :: content.write ++ if separated then [',', ' '] else [] := by
  induction fits generalizing key separated with
  | word label =>
      cases separated <;> simp [lines, write, Line.source, Line.gap, Line.separated, Style.write,
        plain, Line.body, comma]
  | record name _ _ _ ih =>
      rw [lines, List.flatMap_cons, List.flatMap_append, flatMap_source_memberLines ih, write]
      cases separated <;> simp [Line.source, Line.gap, Line.separated, Style.write, plain,
        Line.body, comma]

theorem Fits.flatMap_source_recordLines {name : Label}
    (fits : (Content.record name members).Fits depth) :
    (recordLines name members).flatMap Line.source = (Content.record name members).write := by
  cases fits with
  | record _ _ _ each =>
      rw [recordLines, List.flatMap_cons, List.flatMap_append,
        flatMap_source_memberLines fun member listed => (each member listed).flatMap_source_lines,
        write]
      simp [Line.source, Line.gap, Line.separated, Style.write, plain, Line.body, comma]

end Content

/-! ## The layout of a record -/

namespace Line

/-- A line as a row, behind some spaces. -/
def row (gap : Text) (line : Line) : Row where
  closing := if line.closes then some { text := ['}'], kind := .literal } else none
  gap := gap
  body := line.body
  ending := match line with
    | .opening _ _ => some (.opening, { text := ['{'], kind := .literal })
    | .member _ _ separated | .closing separated =>
        if separated then some (.breaking, { text := [','], kind := .literal }) else none

/-- Lines as rows, the first of them behind some spaces. -/
def rows (gap : Text) : List Line → List Row
  | [] => []
  | line :: lines => line.row gap :: rows line.gap lines

theorem written_row (gap : Text) (line : Line) : (line.row gap).written = plain.write line := by
  cases line with
  | opening key name =>
      simp [row, Row.written, Row.closingText, Row.endingText, closes, plain, Style.write]
  | member key word separated =>
      cases separated <;>
        simp [row, Row.written, Row.closingText, Row.endingText, closes, plain, Style.write, comma]
  | closing separated =>
      cases separated <;>
        simp [row, Row.written, Row.closingText, Row.endingText, closes, body, Style.write, comma]

/-- The text of a row, where no space comes before a closing brace. -/
theorem source_row {gap : Text} {line : Line} (joined : line.closes = true → gap = []) :
    (line.row gap).source = gap ++ plain.write line := by
  rw [← written_row gap]
  cases closes : line.closes with
  | true => simp [Row.source, Row.written, row, joined closes]
  | false => simp [Row.source, Row.written, Row.closingText, row, closes]

theorem isSome_closing_row (gap : Text) (line : Line) :
    (line.row gap).closing.isSome = line.closes := by
  cases closes : line.closes <;> simp [row, closes]

theorem isNone_ending_row (gap : Text) (line : Line) :
    (line.row gap).ending = none ↔ line.goesOn = false := by
  cases line <;> simp [row, goesOn]

/-- No space comes before a line that closes a record. -/
theorem gap_eq_nil {line next : Line} (follows : next.closes = !line.goesOn)
    (closes : next.closes = true) : line.gap = [] := by
  rw [closes, eq_comm, Bool.not_eq_true'] at follows
  cases line with
  | opening => rfl
  | member | closing =>
      rw [goesOn] at follows
      rw [gap, separated, follows]
      rfl

theorem sources_rows {line : Line} {lines : List Line} (ordered : Ordered (line :: lines))
    {gap : Text} (joined : line.closes = true → gap = []) :
    Row.sources (rows gap (line :: lines)) = gap ++ (line :: lines).flatMap source := by
  induction lines generalizing line gap with
  | nil =>
      obtain ⟨ends⟩ := ordered
      have follows : (Line.closing false).closes = !line.goesOn := by rw [ends]; rfl
      have gapless : line.gap = [] := gap_eq_nil follows rfl
      simp [rows, source_row joined, source, gapless]
  | cons next lines ih =>
      cases ordered with
      | cons follows more =>
          rw [rows, Row.sources_cons, source_row joined, ih more (gap_eq_nil follows)]
          simp only [List.flatMap_cons, source, List.append_assoc]

/-- A line holds labels and equals signs. -/
theorem mem_body {line : Line} {char : Char} (member : char ∈ line.body) :
    Unicode.isWord char = true ∨ char = '=' := by
  have label (label : Label) (listed : char ∈ label.text) : Unicode.isWord char = true :=
    label.isWord char listed
  match line with
  | .opening none name => exact .inl (label name member)
  | .opening (some key) name | .member key name _ =>
      rw [body, List.mem_append, List.mem_cons] at member
      rcases member with listed | rfl | listed
      · exact .inl (label key listed)
      · exact .inr rfl
      · exact .inl (label name listed)
  | .closing _ => cases member

theorem plain_body (line : Line) (after : Text) :
    (Layout.ofOptions .brackets).Plain line.body after := by
  have signs := Json.singleSigns_brackets 4 .lf
  refine Json.plain_of_unlisted signs (fun char member role listed => ?_) after
  have isBracket : char ∈ Json.brackets := @Json.mem_brackets_of_candidate 4 .lf role char listed
  have others : ∀ char ∈ Json.brackets, Unicode.isWord char = false ∧ char ≠ '=' :=
    List.forall_iff_forall_mem.mp (by decide)
  rcases mem_body member with word | equal
  · cases (others char isBracket).1.symm.trans word
  · exact (others char isBracket).2 equal

theorem fits_row {gap : Text} (spaces : ∀ char ∈ gap, char = ' ') (line : Line) :
    (Layout.ofOptions .brackets).Fits (line.row gap) where
  closing {token} has := by
    cases closes : line.closes with
    | false => simp [row, closes] at has
    | true =>
        obtain rfl : { text := ['}'], kind := .literal } = token := by
          simpa [row, closes] using has
        exact ⟨['}'], by rfl⟩
  ending {role token} has := by
    have brace :
        (Layout.ofOptions .brackets).HasToken .opening { text := ['{'], kind := .literal } :=
      ⟨['{'], by rfl⟩
    have comma :
        (Layout.ofOptions .brackets).HasToken .breaking { text := [','], kind := .literal } :=
      ⟨[','], by rfl⟩
    cases line with
    | opening =>
        cases has
        exact ⟨brace, TokenClass.noConfusion⟩
    | member _ _ separated | closing separated =>
        cases separated <;> cases has
        exact ⟨comma, TokenClass.noConfusion⟩
  spaces := spaces
  stops := by
    intro space
    rcases mem_body (List.mem_of_mem_head? space) with word | equal
    · revert word
      decide
    · cases equal

theorem eq_space_of_mem_gap (line : Line) : ∀ char ∈ line.gap, char = ' ' := by
  rw [Line.gap]
  split <;> simp

/-- The rows of lines are how a scan by brackets divides their text. -/
theorem lays_rows {line : Line} {lines : List Line} (ordered : Ordered (line :: lines))
    {gap : Text} (spaces : ∀ char ∈ gap, char = ' ') :
    (Layout.ofOptions .brackets).Lays (rows gap (line :: lines)) := by
  induction lines generalizing line gap with
  | nil =>
      obtain ⟨ends⟩ := ordered
      exact .cons (fits_row spaces line) (plain_body line _) ((isNone_ending_row gap line).mpr ends)
        .nil
  | cons next lines ih =>
      cases ordered with
      | cons follows more =>
          refine .cons (fits_row spaces line) (plain_body line _) ?_
            (ih more line.eq_space_of_mem_gap)
          show _ ↔ _
          rw [isNone_ending_row, isSome_closing_row, follows, Bool.not_eq_true']

end Line

/-! ## Pages -/

/-- What is between two lines: a line feed and an indentation. -/
def Margin (margin : Text) : Prop :=
  ∃ count, margin = '\n' :: List.replicate count ' '

/-- A text of lines in a style. -/
inductive Page (style : Style) : List Line → Text → Prop where
  | last {line : Line} (ends : line.goesOn = false) : Page style [line] (style.write line)
  | cons {line next : Line} {others : List Line} {margin text : Text} (isMargin : Margin margin)
      (follows : next.closes = !line.goesOn) (more : Page style (next :: others) text) :
      Page style (line :: next :: others) (style.write line ++ (margin ++ text))

/-- The lines of rows, joined, behind their first indentation. -/
theorem exists_page {line : Line} {lines : List Line} (ordered : Ordered (line :: lines))
    (gap : Text) (level : Int) :
    ∃ text, Page plain (line :: lines) text ∧
      Text.joinWith ['\n']
        (Row.lines (LayoutOptions.indentation .brackets) level (Line.rows gap (line :: lines))) =
          LayoutOptions.indentation .brackets ((line.row gap).level level) ++ text := by
  induction lines generalizing line gap level with
  | nil =>
      obtain ⟨ends⟩ := ordered
      refine ⟨plain.write line, .last ends, ?_⟩
      simp [Line.rows, Row.lines, Row.placed, Row.line, Text.joinWith, Line.written_row]
  | cons next lines ih =>
      cases ordered with
      | cons follows more =>
          obtain ⟨text, page, joined⟩ := ih more line.gap ((line.row gap).levelBehind level)
          let below := (next.row line.gap).level ((line.row gap).levelBehind level)
          have isMargin : Margin ('\n' :: LayoutOptions.indentation .brackets below) := ⟨_, rfl⟩
          have later : (Row.lines (LayoutOptions.indentation .brackets)
              ((line.row gap).levelBehind level) (Line.rows line.gap (next :: lines))) ≠ [] := by
            simp [Row.lines, Line.rows, Row.placed]
          refine ⟨_, .cons isMargin follows page, ?_⟩
          rw [Line.rows, Row.lines, Row.placed, List.map_cons, ← Row.lines,
            Text.joinWith_cons later, joined, Row.line, Line.written_row]
          simp [below]

/-- A line as it is dumped holds words and a few signs. -/
theorem mem_write_plain {line : Line} {char : Char} (member : char ∈ plain.write line) :
    Unicode.isWord char = true ∨ char ∈ ['=', '{', '}', ','] := by
  have inBody (listed : char ∈ line.body) :
      Unicode.isWord char = true ∨ char ∈ ['=', '{', '}', ','] := by
    rcases Line.mem_body listed with word | rfl
    · exact .inl word
    · exact .inr List.mem_cons_self
  have inComma {separated : Bool} (listed : char ∈ comma separated) : char = ',' := by
    cases separated with
    | false => cases listed
    | true => exact List.mem_singleton.mp listed
  cases line with
  | opening key name =>
      rcases List.mem_append.mp member with listed | listed
      · exact inBody listed
      · simp [List.mem_singleton.mp listed]
  | member key word separated =>
      rcases List.mem_append.mp member with listed | listed
      · exact inBody listed
      · simp [inComma listed]
  | closing separated =>
      rcases List.mem_cons.mp member with rfl | listed
      · simp
      · simp [inComma listed]

theorem blank_write_plain (line : Line) : (plain.write line).blank = false := by
  have signs : ∀ sign ∈ ['=', '{', '}'], Text.isBlank sign = false :=
    List.forall_iff_forall_mem.mp (by decide)
  rw [Text.blank, List.all_eq_false]
  cases line with
  | opening key name => exact ⟨'{', by simp [Style.write, plain], by simp [signs]⟩
  | member key word separated =>
      exact ⟨'=', by simp [Style.write, plain, Line.body], by simp [signs]⟩
  | closing separated => exact ⟨'}', List.mem_cons_self, by simp [signs]⟩

/-- No row of a record is left out. -/
theorem filter_lines_rows (options : LayoutOptions) (level : Int) (gap : Text)
    (lines : List Line) :
    ((Row.lines options.indentation level (Line.rows gap lines)).filter fun line => !line.blank) =
      Row.lines options.indentation level (Line.rows gap lines) := by
  have shown : ∀ row ∈ Line.rows gap lines, row.written.blank = false := by
    induction lines generalizing gap with
    | nil => exact List.forall_mem_nil _
    | cons line lines ih =>
        refine List.forall_mem_cons.mpr ⟨?_, ih line.gap⟩
        rw [Line.written_row]
        exact blank_write_plain line
  rw [List.filter_eq_self]
  intro line member
  obtain ⟨place, isPlace, rfl⟩ := List.mem_map.mp member
  rw [Row.blank_line, shown _ (Row.mem_of_mem_placed isPlace)]
  rfl

namespace Content

variable {depth : Nat} {name : Label} {members : List (Label × Content)}

/-- The dump of a record has no line breaks, and no blanks at its ends. -/
theorem Fits.unbroken_write (fits : (Content.record name members).Fits depth) :
    (Content.record name members).write.unbroken = (Content.record name members).write := by
  have solid : Json.Solid (Content.record name members).write := by
    constructor
    case starts =>
      obtain ⟨char, others, equal⟩ := List.exists_cons_of_ne_nil name.notEmpty
      have isWord := name.isWord char (equal ▸ List.mem_cons_self)
      exact ⟨char, _, by rw [write, equal]; rfl, Text.isBlank_eq_false_of_isWord isWord⟩
    case ends =>
      exact ⟨name.text ++ '{' :: Text.joinWith [',', ' '] (writeMembers members), '}',
        by simp [write], by decide⟩
  have unbroken : ∀ char ∈ (Content.record name members).write, Text.isLineBreak char = false := by
    have word (char : Char) (isWord : Unicode.isWord char = true) :
        Text.isLineBreak char = false := by
      rw [Bool.eq_false_iff]
      intro isBreak
      have isBlank := Text.isBlank_of_isLineBreak isBreak
      cases isBlank.symm.trans (Text.isBlank_eq_false_of_isWord isWord)
    have signs : ∀ sign ∈ ['=', '{', '}', ','], Text.isLineBreak sign = false :=
      List.forall_iff_forall_mem.mp (by decide)
    rw [← fits.flatMap_source_recordLines]
    intro char member
    obtain ⟨line, -, listed⟩ := List.mem_flatMap.mp member
    rcases List.mem_append.mp listed with listed | space
    · exact (mem_write_plain listed).elim (word char) (signs char)
    · rw [line.eq_space_of_mem_gap char space]
      decide
  rw [Text.unbroken, Text.withoutBreaks_of_not_mem unbroken, solid.trim_eq]

theorem Fits.exists_reflow? (fits : (Content.record name members).Fits depth) :
    ∃ text, (Layout.ofOptions .brackets).reflow? (Content.record name members).write =
      some text ∧ Page plain (recordLines name members) text := by
  have ordered := fits.ordered_recordLines
  have regular := (Json.singleSigns_brackets 4 .lf).regular
  have divided : (Content.record name members).write.unbroken =
      Row.sources (Line.rows [] (recordLines name members)) := by
    rw [fits.unbroken_write, recordLines, Line.sources_rows ordered fun _ => rfl, List.nil_append,
      ← recordLines, fits.flatMap_source_recordLines]
  obtain ⟨text, page, joined⟩ := exists_page ordered [] 0
  refine ⟨text, ?_, page⟩
  have margin : LayoutOptions.indentation .brackets
      ((Line.row [] (.opening none name)).level 0) = [] := rfl
  have laidOut : (Layout.ofOptions .brackets).lines? (Content.record name members).write =
      some (Row.lines (LayoutOptions.indentation .brackets) 0
        (Line.rows [] (recordLines name members))) := by
    rw [← filter_lines_rows]
    exact Layout.lines?_eq regular (Line.lays_rows ordered (List.forall_mem_nil _)) rfl divided
  rw [Layout.reflow?, laidOut, Option.map_some]
  rw [margin, List.nil_append] at joined
  exact congrArg some joined

end Content

end Reflow.Dump
