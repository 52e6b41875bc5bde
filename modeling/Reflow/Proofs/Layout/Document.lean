import Reflow.Proofs.Layout.Row

/-!
# Documents

The document that rows come to: the lines of the rows that are not blank, joined by line ends. Such
a document reads back as these lines, each of which has its indentation and then no further space.
-/

namespace Reflow

namespace Row

/-- The rows that are shown, with their levels: those with something else than blanks. -/
def shown (before : Int) (rows : List Row) : List (Int × Row) :=
  (placed before rows).filter fun place => !place.2.written.blank

/-- The document of rows. -/
def document (options : LayoutOptions) (rows : List Row) : Text :=
  Text.joinWith options.lineEnding.text ((shown 0 rows).map (line options.indentation))

theorem mem_of_mem_placed {before : Int} {rows : List Row} {place : Int × Row}
    (member : place ∈ placed before rows) : place.2 ∈ rows := by
  induction rows generalizing before with
  | nil => cases member
  | cons row rows ih =>
      rcases List.mem_cons.mp member with rfl | member
      · exact List.mem_cons_self
      · exact List.mem_cons_of_mem row (ih member)

theorem mem_of_mem_shown {before : Int} {rows : List Row} {place : Int × Row}
    (member : place ∈ shown before rows) : place.2 ∈ rows :=
  mem_of_mem_placed (List.mem_of_mem_filter member)

theorem shown_cons_of_blank {row : Row} (blank : row.written.blank = true) (before : Int)
    (rows : List Row) : shown before (row :: rows) = shown (row.levelBehind before) rows := by
  simp [shown, placed, blank]

theorem shown_cons_of_inked {row : Row} (inked : row.written.blank = false) (before : Int)
    (rows : List Row) :
    shown before (row :: rows) =
      (row.level before, row) :: shown (row.levelBehind before) rows := by
  simp [shown, placed, inked]

theorem blank_line (options : LayoutOptions) (place : Int × Row) :
    (line options.indentation place).blank = place.2.written.blank := by
  rw [line, Text.blank_append, options.blank_indentation, Bool.true_and]

/-- The lines that are not blank are those of the rows that are shown. -/
theorem filter_lines (options : LayoutOptions) (before : Int) (rows : List Row) :
    ((lines options.indentation before rows).filter fun line => !line.blank) =
      (shown before rows).map (line options.indentation) := by
  rw [lines, List.filter_map, shown]
  congr 2
  funext place
  exact congrArg _ (blank_line options place)

/-- What is written comes from the text of the rows. -/
theorem mem_sources_of_mem_written {rows : List Row} {row : Row} (member : row ∈ rows)
    {char : Char} (within : char ∈ row.written) : char ∈ sources rows := by
  rw [sources, List.mem_flatten]
  refine ⟨row.source, List.mem_map_of_mem member, ?_⟩
  simp only [written, source, List.mem_append] at within ⊢
  rcases within with (within | within) | within
  · exact .inl (.inl (.inl within))
  · exact .inl (.inr within)
  · exact .inr within

/-- Lines hold no line breaks if the text of the rows holds none. -/
theorem isLineBreak_eq_false_of_mem_line {rows : List Row}
    (unbroken : ∀ char ∈ sources rows, Text.isLineBreak char = false) (options : LayoutOptions)
    {place : Int × Row} (member : place.2 ∈ rows) :
    ∀ char ∈ line options.indentation place, Text.isLineBreak char = false := by
  intro char within
  rcases List.mem_append.mp within with within | within
  · rw [LayoutOptions.eq_space_of_mem_indentation within]
    decide
  · exact unbroken char (mem_sources_of_mem_written member within)

end Row

namespace LineEnding

/-- A line end starts with a line break, and holds nothing else. -/
theorem exists_text_eq (lineEnding : LineEnding) :
    ∃ char rest, lineEnding.text = char :: rest ∧
      ∀ other ∈ lineEnding.text, Text.isLineBreak other = true := by
  cases lineEnding with
  | crlf => exact ⟨'\r', ['\n'], rfl, List.all_eq_true.mp (by decide)⟩
  | lf => exact ⟨'\n', [], rfl, List.all_eq_true.mp (by decide)⟩

theorem blank_text (lineEnding : LineEnding) : lineEnding.text.blank = true :=
  Text.ink_eq_nil_iff.mp lineEnding.ink_text

theorem feed_mem_text (lineEnding : LineEnding) : '\n' ∈ lineEnding.text := by
  cases lineEnding <;> decide

/-- Line endings divide lines that hold neither blanks only nor line breaks. -/
theorem linesBy_joinWith (lineEnding : LineEnding) {lines : List Text}
    (proper : ∀ line ∈ lines,
      line.blank = false ∧ ∀ char ∈ line, Text.isLineBreak char = false) :
    Text.linesBy lineEnding.text (Text.joinWith lineEnding.text lines) = lines := by
  obtain ⟨first, rest, ending, breaks⟩ := lineEnding.exists_text_eq
  rw [ending] at breaks ⊢
  apply Text.linesBy_joinWith
  intro line listed
  obtain ⟨inked, unbroken⟩ := proper line listed
  constructor
  · intro empty
    rw [empty] at inked
    cases inked
  · intro within
    have isBreak := breaks first List.mem_cons_self
    rw [unbroken first within] at isBreak
    cases isBreak

end LineEnding

namespace Layout

open Row

variable {options : LayoutOptions} {rows : List Row}

/-- A document reads back as the lines of the rows that are shown. -/
theorem linesBy_document (unbroken : ∀ char ∈ sources rows, Text.isLineBreak char = false) :
    Text.linesBy options.lineEnding.text (document options rows) =
      (shown 0 rows).map (line options.indentation) := by
  apply options.lineEnding.linesBy_joinWith
  intro text member
  obtain ⟨place, inShown, rfl⟩ := List.mem_map.mp member
  constructor
  · rw [blank_line]
    simpa using List.of_mem_filter inShown
  · exact isLineBreak_eq_false_of_mem_line unbroken options (mem_of_mem_shown inShown)

theorem Lays.fits {layout : Layout} (lays : layout.Lays rows) {row : Row} (member : row ∈ rows) :
    layout.Fits row := by
  induction lays with
  | nil => cases member
  | cons fits plain meets others ih =>
      rcases List.mem_cons.mp member with rfl | member
      · exact fits
      · exact ih member

theorem Fits.head?_written {layout : Layout} (regular : layout.Regular) {row : Row}
    (fits : layout.Fits row) : row.written.head? ≠ some ' ' := by
  rw [written, List.append_assoc]
  cases closes : row.closing with
  | some token =>
      have known := fits.closing closes
      rw [closingText, closes, Option.elim_some]
      exact regular.head?_ne_space known _
  | none =>
      rw [closingText, closes, Option.elim_none, List.nil_append]
      cases body : row.body with
      | cons char rest =>
          have bodyStops := fits.stops
          rw [body] at bodyStops
          exact bodyStops
      | nil =>
          rw [List.nil_append, endingText]
          cases ends : row.ending with
          | none => simp
          | some match' =>
              have known := (fits.ending ends).1
              simpa using regular.head?_ne_space known []

/-- A row with a closing token is shown. -/
theorem Fits.blank_written {layout : Layout} (regular : layout.Regular) {row : Row}
    (fits : layout.Fits row) (closes : row.closing.isSome) : row.written.blank = false := by
  obtain ⟨token, has⟩ := Option.isSome_iff_exists.mp closes
  have known := fits.closing has
  have inked := (regular.inked known).blank_eq_false known.ne_nil
  rw [written, closingText, has, Option.elim_some, List.append_assoc, Text.blank_append, inked,
    Bool.false_and]

theorem leadingSpaces_line {layout : Layout} (regular : layout.Regular) {place : Int × Row}
    (fits : layout.Fits place.2) (options : LayoutOptions) :
    (line options.indentation place).leadingSpaces = (options.indentation place.1).length := by
  rw [line, LayoutOptions.indentation, Text.leadingSpaces_append (fits.head?_written regular),
    List.length_replicate]

/-- Every text is laid out as the document of its rows, which hold no line breaks. -/
theorem exists_document (regular : (ofOptions options).Regular) (text : Text) :
    ∃ first rest, (ofOptions options).Lays (first :: rest) ∧ first.closing = none ∧
      (∀ char ∈ sources (first :: rest), Text.isLineBreak char = false) ∧
      (ofOptions options).reflow? text = some (document options (first :: rest)) := by
  obtain ⟨first, rest, lays, opens, divided⟩ := exists_lays regular text.unbroken
  have unbroken : ∀ char ∈ sources (first :: rest), Text.isLineBreak char = false := by
    rw [divided]
    exact Text.isBreak_eq_false_of_mem_withoutBreaks
  refine ⟨first, rest, lays, opens, unbroken, ?_⟩
  rw [reflow?, lines?_eq regular lays opens divided.symm, filter_lines]
  rfl

end Layout

end Reflow
