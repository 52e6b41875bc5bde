import Reflow.Proofs.Layout.Preset
import Reflow.Proofs.Layout.Tidy
import Reflow.Proofs.Text.Seams

/-!
# Stable layouts

Laying a text out a second time moves no line. Reading the lines of a document back leaves its tidy
rows, on the same levels, so the second document differs from the first one in blanks at the ends of
lines only. Tidy rows stay as they are, so the third document is the second one.
-/

namespace Reflow

namespace Row

variable {layout : Layout} {rows : List Row}

theorem shown_map_tidied (regular : layout.Regular) (lays : layout.Lays rows) (before : Int) :
    shown before (rows.map tidied) =
      (shown before rows).map fun place => (place.1, place.2.tidied) := by
  rw [shown, placed_map_tidied, List.filter_map, shown]
  congr 1
  apply List.filter_congr
  intro place member
  have fits := lays.fits (mem_of_mem_placed member)
  have same : place.2.tidied.written.blank = place.2.written.blank := by
    rw [written_tidied, ← fits.trim_written regular, Bool.eq_iff_iff, ← Text.trim_eq_nil_iff,
      Text.trim_trim, Text.trim_eq_nil_iff]
  rw [Function.comp_apply, same]

end Row

namespace Layout

open Row

variable {options : LayoutOptions} {rows : List Row}

theorem unbroken_document (regular : (ofOptions options).Regular)
    (lays : (ofOptions options).Lays rows)
    (unbroken : ∀ char ∈ sources rows, Text.isLineBreak char = false) :
    (document options rows).unbroken = sources (rows.map tidied) := by
  rw [document, Text.unbroken, Text.withoutBreaks_joinWith options.lineEnding.blank_text
    ⟨_, options.lineEnding.feed_mem_text, rfl⟩, ← filter_lines, Text.flatten_map_trim_filter,
    sources_map_tidied regular lays]
  intro text member
  obtain ⟨place, inShown, rfl⟩ := List.mem_map.mp member
  exact isLineBreak_eq_false_of_mem_line unbroken options (mem_of_mem_shown inShown)

theorem reflow?_document (regular : (ofOptions options).Regular) {first : Row} {rest : List Row}
    (lays : (ofOptions options).Lays (first :: rest)) (opens : first.closing = none)
    (unbroken : ∀ char ∈ sources (first :: rest), Text.isLineBreak char = false) :
    (ofOptions options).reflow? (document options (first :: rest)) =
      some (document options ((first :: rest).map tidied)) := by
  have divided := unbroken_document regular lays unbroken
  have opensTidied : first.tidied.closing = none := opens
  rw [reflow?, lines?_eq regular (lays.tidied regular) opensTidied divided, filter_lines]
  rfl

/-- What agrees on every line and its tidy line agrees on the lines of the two documents. -/
theorem map_linesBy_document {α : Type} (regular : (ofOptions options).Regular)
    (lays : (ofOptions options).Lays rows)
    (unbroken : ∀ char ∈ sources rows, Text.isLineBreak char = false)
    (unbrokenTidied : ∀ char ∈ sources (rows.map tidied), Text.isLineBreak char = false)
    (measure : Text → α)
    (agrees : ∀ level row, (ofOptions options).Fits row →
      measure (line options.indentation (level, row)) =
        measure (line options.indentation (level, row.tidied))) :
    (Text.linesBy options.lineEnding.text (document options rows)).map measure =
      (Text.linesBy options.lineEnding.text (document options (rows.map tidied))).map measure := by
  rw [linesBy_document unbroken, linesBy_document unbrokenTidied, shown_map_tidied regular lays,
    List.map_map, List.map_map, List.map_map]
  apply List.map_congr_left
  intro place member
  exact agrees place.1 place.2 (lays.fits (mem_of_mem_shown member))

theorem Regular.exists_stable (regular : (ofOptions options).Regular) (text : Text) :
    ∃ once twice,
      (ofOptions options).reflow? text = some once ∧
      (ofOptions options).reflow? once = some twice ∧
      (Text.linesBy options.lineEnding.text once).map Text.leadingSpaces =
        (Text.linesBy options.lineEnding.text twice).map Text.leadingSpaces ∧
      (Text.linesBy options.lineEnding.text once).map Text.trim =
        (Text.linesBy options.lineEnding.text twice).map Text.trim ∧
      (ofOptions options).reflow? twice = some twice := by
  obtain ⟨first, rest, lays, opens, unbroken, laidOut⟩ := exists_document regular text
  have unbrokenTidied : ∀ char ∈ sources ((first :: rest).map tidied),
      Text.isLineBreak char = false := by
    rw [← unbroken_document regular lays unbroken]
    exact Text.isBreak_eq_false_of_mem_withoutBreaks
  have again : ((first :: rest).map tidied).map tidied = (first :: rest).map tidied := by
    rw [List.map_map]
    exact List.map_congr_left fun row _ => row.tidied_tidied
  refine ⟨_, _, laidOut, reflow?_document regular lays opens unbroken, ?_, ?_, ?_⟩
  · apply map_linesBy_document regular lays unbroken unbrokenTidied
    intro level row fits
    have fitsTidied : (ofOptions options).Fits row.tidied := fits.tidied
    rw [leadingSpaces_line regular fits, leadingSpaces_line regular fitsTidied]
  · apply map_linesBy_document regular lays unbroken unbrokenTidied
    intro level row fits
    have fitsTidied : (ofOptions options).Fits row.tidied := fits.tidied
    rw [fits.trim_line regular, fitsTidied.trim_line regular, tidied_tidied]
  · have opensTidied : first.tidied.closing = none := opens
    have thrice := reflow?_document regular (lays.tidied regular) opensTidied unbrokenTidied
    exact thrice.trans (congrArg (fun rows => some (document options rows)) again)

end Layout

/-- Laying a text out is stable. For tags and for single signs, whatever the width of a level and
the line ending, the layout of a layout has as many lines, and line by line the same number of
spaces at the start and the same text without the blanks at its ends. From then on nothing
changes. -/
theorem reflow?_stable (options : LayoutOptions)
    (known : (∃ indentWidth lineEnding,
        options = { LayoutOptions.tags with indentWidth, lineEnding }) ∨ options.SingleSigns)
    (text : Text) :
    ∃ once twice,
      (Layout.ofOptions options).reflow? text = some once ∧
      (Layout.ofOptions options).reflow? once = some twice ∧
      (Text.linesBy options.lineEnding.text once).length =
        (Text.linesBy options.lineEnding.text twice).length ∧
      (Text.linesBy options.lineEnding.text once).map Text.leadingSpaces =
        (Text.linesBy options.lineEnding.text twice).map Text.leadingSpaces ∧
      (Text.linesBy options.lineEnding.text once).map Text.trim =
        (Text.linesBy options.lineEnding.text twice).map Text.trim ∧
      (Layout.ofOptions options).reflow? twice = some twice := by
  have regular : (Layout.ofOptions options).Regular := by
    rcases known with ⟨indentWidth, lineEnding, rfl⟩ | signs
    · exact LayoutOptions.regular_tags indentWidth lineEnding
    · exact signs.regular
  obtain ⟨once, twice, laidOut, laidOutAgain, spaces, trimmed, fixed⟩ :=
    regular.exists_stable text
  refine ⟨once, twice, laidOut, laidOutAgain, ?_, spaces, trimmed, fixed⟩
  simpa using congrArg List.length trimmed

/-- Tags with tabs at the ends of lines, which the second layout trims, and a single sign that is
listed twice and so is no token. -/
theorem reflow?_stable_of_tags :
    (∃ once twice, (Layout.ofOptions .tags).reflow? "<a>\tb\t</a>;\t<c>".toList = some once ∧
      (Layout.ofOptions .tags).reflow? once = some twice ∧
      (Layout.ofOptions .tags).reflow? twice = some twice) ∧
    LayoutOptions.SingleSigns
      { LayoutOptions.tags with openTokens := [['<']], closeTokens := [['>'], ['>']] } ∧
    ∃ once, (Layout.ofOptions
      { LayoutOptions.tags with openTokens := [['<']], closeTokens := [['>'], ['>']] }).reflow?
        "<a>, b".toList = some once := by
  have signs : LayoutOptions.SingleSigns
      { LayoutOptions.tags with openTokens := [['<']], closeTokens := [['>'], ['>']] } := by
    intro candidate listed
    simp only [LayoutOptions.tags, List.cons_append, List.nil_append, List.mem_cons,
      List.not_mem_nil, or_false] at listed
    rcases listed with rfl | rfl | rfl | rfl | rfl <;> exact ⟨_, rfl, by decide⟩
  obtain ⟨once, twice, first, second, -, -, -, fixed⟩ :=
    reflow?_stable .tags (.inl ⟨4, .lf, rfl⟩) "<a>\tb\t</a>;\t<c>".toList
  obtain ⟨signsOnce, -, laidOut, -⟩ := reflow?_stable _ (.inr signs) "<a>, b".toList
  exact ⟨⟨once, twice, first, second, fixed⟩, signs, signsOnce, laidOut⟩

end Reflow
