import Reflow.Proofs.Layout.Document
import Reflow.Proofs.Text.Edges

/-!
# Tidy rows

What is left of rows when their lines are written, joined and read again: the blanks at the ends of
every line are gone. No token lies across a place where blanks are taken out, so the tidy rows are
the rows of what is left, on the same levels.
-/

namespace Reflow

namespace Row

/-- A row without the blanks that its line has at its ends. -/
def tidied (row : Row) : Row :=
  let started := if row.closing.isSome then row.body else row.body.trimStart
  { row with
    gap := []
    body := if row.ending.isSome then started else started.trimEnd }

@[simp] theorem closing_tidied (row : Row) : row.tidied.closing = row.closing := rfl

@[simp] theorem ending_tidied (row : Row) : row.tidied.ending = row.ending := rfl

@[simp] theorem gap_tidied (row : Row) : row.tidied.gap = [] := rfl

@[simp] theorem closingText_tidied (row : Row) : row.tidied.closingText = row.closingText := rfl

@[simp] theorem endingText_tidied (row : Row) : row.tidied.endingText = row.endingText := rfl

@[simp] theorem level_tidied (before : Int) (row : Row) :
    row.tidied.level before = row.level before := rfl

@[simp] theorem levelBehind_tidied (before : Int) (row : Row) :
    row.tidied.levelBehind before = row.levelBehind before := rfl

@[simp] theorem written_tidied (row : Row) : row.tidied.written = row.tidied.source := by
  simp [written, source]

/-- The body of a tidy row is part of the body, and reaches up to its end before a token. -/
theorem exists_body_tidied (row : Row) :
    ∃ left right, row.body = left ++ row.tidied.body ++ right ∧
      (row.closing.isSome → left = []) ∧ (row.ending.isSome → right = []) := by
  obtain ⟨left, bodyStart, -⟩ := Text.exists_append_trimStart row.body
  obtain ⟨right, bodyEnd, -⟩ := Text.exists_trimEnd_append row.body
  obtain ⟨startRight, startEnd, -⟩ := Text.exists_trimEnd_append row.body.trimStart
  cases closes : row.closing.isSome <;> cases ends : row.ending.isSome <;>
    simp only [tidied, closes, ends, Bool.false_eq_true, if_true, if_false]
  · refine ⟨left, startRight, ?_, by simp, by simp⟩
    rw [List.append_assoc, ← startEnd, ← bodyStart]
  · exact ⟨left, [], by rw [List.append_nil, ← bodyStart], by simp, by simp⟩
  · exact ⟨[], right, by rw [List.nil_append, ← bodyEnd], by simp, by simp⟩
  · exact ⟨[], [], by rw [List.nil_append, List.append_nil], by simp, by simp⟩

@[simp] theorem tidied_tidied (row : Row) : row.tidied.tidied = row.tidied := by
  cases row with
  | mk closing gap body ending =>
      cases closing <;> cases ending <;>
        simp [tidied, Text.trimStart_trimEnd_of_trimStart]

/-- Rows keep their levels when they are tidied. -/
theorem placed_map_tidied (before : Int) (rows : List Row) :
    placed before (rows.map tidied) =
      (placed before rows).map fun place => (place.1, place.2.tidied) := by
  induction rows generalizing before with
  | nil => rfl
  | cons row rows ih => simp [placed, ih]

end Row

namespace Layout

open Row

variable {layout : Layout}

/-! ## The text of tidy rows -/

section Tokens

variable {row : Row} (regular : layout.Regular) (fits : layout.Fits row)
include regular fits

theorem Fits.inked_closingText : row.closingText.Inked := by
  rw [closingText]
  cases closes : row.closing with
  | none => exact .nil
  | some token => exact regular.inked (fits.closing closes)

theorem Fits.inked_endingText : row.endingText.Inked := by
  rw [endingText]
  cases ends : row.ending with
  | none => exact .nil
  | some match' => exact regular.inked (fits.ending ends).1

theorem Fits.trim_written : row.written.trim = row.tidied.source := by
  have closingInked := fits.inked_closingText regular
  have endingInked := fits.inked_endingText regular
  have started : row.written.trimStart =
      row.closingText ++ (if row.closing.isSome then row.body else row.body.trimStart) ++
        row.endingText := by
    rw [written]
    cases closes : row.closing with
    | none =>
        simp only [closingText, closes, Option.elim_none, List.nil_append]
        exact Text.trimStart_append endingInked.startsInked
    | some token =>
        have notEmpty : row.closingText ≠ [] := by
          simpa [closingText, closes] using (fits.closing closes).ne_nil
        rw [List.append_assoc,
          Text.trimStart_eq_self (closingInked.startsInked.append_of_ne_nil notEmpty)]
        simp
  rw [Text.trim, started, source, gap_tidied, List.append_nil, closingText_tidied,
    endingText_tidied, tidied]
  cases ends : row.ending with
  | none =>
      simp only [endingText, ends, Option.elim_none, List.append_nil, Option.isSome_none,
        Bool.false_eq_true, if_false]
      exact Text.trimEnd_append closingInked.endsInked
  | some match' =>
      have notEmpty : row.endingText ≠ [] := by
        simpa [endingText, ends] using (fits.ending ends).1.ne_nil
      rw [Text.trimEnd_eq_self (endingInked.endsInked.append_of_ne_nil notEmpty)]
      simp

end Tokens

theorem Fits.trim_line (regular : layout.Regular) {place : Int × Row} (fits : layout.Fits place.2)
    (options : LayoutOptions) :
    (line options.indentation place).trim = place.2.tidied.source := by
  rw [line, Text.trim_append_of_blank (options.blank_indentation _), fits.trim_written regular]

/-- The text of the tidy rows is what is left of the lines without the blanks at their ends. -/
theorem sources_map_tidied (regular : layout.Regular) {rows : List Row}
    (lays : layout.Lays rows) (options : LayoutOptions) (before : Int) :
    ((lines options.indentation before rows).map Text.trim).flatten =
      sources (rows.map tidied) := by
  induction lays generalizing before with
  | nil => rfl
  | @cons row rows fits plain meets others ih =>
      have first : layout.Fits (row.level before, row).2 := fits
      have rest := ih (row.levelBehind before)
      rw [lines] at rest ⊢
      rw [placed, List.map_cons, List.map_cons, List.flatten_cons, first.trim_line regular, rest,
        List.map_cons, sources_cons]

/-! ## Tidy rows lay out -/

/-- No known token starts inside of a text without tokens. -/
theorem Plain.not_token (regular : layout.Regular) {body after front : Text}
    (plain : layout.Plain body after) {role : TokenClass} {token : Token}
    (known : layout.HasToken role token) (inside : front.length < body.length) (rest : Text) :
    body ++ after ≠ front ++ (token.text ++ rest) := by
  intro occurs
  rcases List.append_eq_append_iff.mp occurs with ⟨others, equal, -⟩ | ⟨back, equal, occurs⟩
  · rw [equal, List.length_append] at inside
    omega
  · cases back with
    | nil =>
        rw [equal, List.append_nil] at inside
        exact absurd inside (Nat.lt_irrefl _)
    | cons char back =>
        have notFound := plain front char back equal
        rw [← occurs, regular.carries known rest] at notFound
        cases notFound

section Seam

variable {role otherRole : TokenClass} {token other : Token} {first : Char}
  {within reaching : Text} (regular : layout.Regular) (known : layout.HasToken role token)
  (reaches : token.text = first :: within ++ reaching)
include regular known reaches

/-- A token that reaches into another one does not go on behind its end. -/
theorem Regular.eq_nil_of_append (otherKnown : layout.HasToken otherRole other) {further : Text}
    (beyond : reaching = other.text ++ further) : further = [] := by
  obtain ⟨front, last, split⟩ := List.eq_nil_or_concat other.text |>.resolve_left otherKnown.ne_nil
  cases further with
  | nil => rfl
  | cons next further =>
      have outside := regular.lastOutside otherKnown (by rw [split, List.concat_eq_append]) known
      rw [reaches, beyond, split] at outside
      simp [List.dropLast_append_of_ne_nil, List.dropLast_cons_of_ne_nil] at outside

/-- A token does not reach into a closing one. -/
theorem Regular.eq_nil_of_closing (otherKnown : layout.HasToken .closing other)
    {behind rest : Text} (equal : reaching ++ behind = other.text ++ rest) : reaching = [] := by
  cases start : other.text with
  | nil => exact absurd start otherKnown.ne_nil
  | cons char others =>
      cases reaching with
      | nil => rfl
      | cons next reaching =>
          have outside := regular.firstOutside otherKnown start known
          have same : next = char := by
            simpa [start] using congrArg List.head? equal
          rw [reaches, same] at outside
          simp at outside

/-- A token that reaches behind a body reaches into the token behind the body, and only that far. -/
theorem Regular.exists_endingText_eq {row : Row} (fits : layout.Fits row) {rows : List Row}
    (meets : Meets row rows) (others : layout.Lays rows) {behind : Text}
    (equal : row.endingText ++ sources (rows.map tidied) = reaching ++ behind) :
    ∃ left, row.endingText = reaching ++ left := by
  cases ends : row.ending with
  | some match' =>
      obtain ⟨otherRole, other⟩ := match'
      have ending : row.endingText = other.text := by rw [endingText, ends]; rfl
      rcases List.append_eq_append_iff.mp equal with ⟨further, beyond, -⟩ | ⟨left, inside, -⟩
      · rw [ending] at beyond
        have none := regular.eq_nil_of_append known reaches (fits.ending ends).1 beyond
        exact ⟨[], by rw [ending, beyond, none, List.append_nil, List.append_nil]⟩
      · exact ⟨left, inside⟩
  | none =>
      have empty : row.endingText = [] := by rw [endingText, ends]; rfl
      rw [empty, List.nil_append] at equal
      cases others with
      | nil => exact ⟨[], by rw [empty, (List.append_eq_nil_iff.mp equal.symm).1]; rfl⟩
      | @cons next more nextFits =>
          obtain ⟨other, closes⟩ := Option.isSome_iff_exists.mp (meets.mp ends)
          have start : ∃ rest, sources ((next :: more).map tidied) = other.text ++ rest := by
            refine ⟨next.tidied.body ++ next.endingText ++ sources (more.map tidied), ?_⟩
            simp [source, closingText, closes]
          obtain ⟨rest, start⟩ := start
          have none := regular.eq_nil_of_closing known reaches (nextFits.closing closes)
            (equal.symm.trans start)
          exact ⟨[], by rw [empty, none]; rfl⟩

end Seam

theorem Fits.tidied {row : Row} (fits : layout.Fits row) : layout.Fits row.tidied := by
  refine { closing := fits.closing, ending := fits.ending, spaces := by simp, stops := ?_ }
  intro space
  cases body : row.tidied.body with
  | nil => simp [body] at space
  | cons char rest =>
      obtain ⟨left, right, divided, startKept, -⟩ := row.exists_body_tidied
      rw [body, List.head?_cons, Option.some.injEq] at space
      subst space
      cases closes : row.closing.isSome with
      | true =>
          have bodyStops := fits.stops
          rw [divided, startKept closes, body] at bodyStops
          exact bodyStops rfl
      | false =>
          -- Without a closing token the body of the tidy row starts with ink.
          have started : row.tidied.body.trimStart = row.tidied.body := by
            cases ends : row.ending.isSome <;>
              simp [Row.tidied, closes, ends, Text.trimStart_trimEnd_of_trimStart]
          have inked := Text.isBlank_eq_false_of_trimStart (started.trans body)
          exact absurd inked (by decide)

/-- Taking the blanks out makes no tokens inside of the bodies. -/
theorem Plain.tidied (regular : layout.Regular) {row : Row} {rows : List Row}
    (fits : layout.Fits row) (plain : layout.Plain row.body (row.endingText ++ sources rows))
    (meets : Meets row rows) (others : layout.Lays rows) :
    layout.Plain row.tidied.body (row.endingText ++ sources (rows.map Row.tidied)) := by
  intro front char back equal
  cases found : layout.classify?
      (char :: back ++ (row.endingText ++ sources (rows.map Row.tidied))) with
  | none => rfl
  | some match' =>
      obtain ⟨role, token⟩ := match'
      have known : layout.HasToken role token := ⟨_, found⟩
      obtain ⟨behind, occurs⟩ := regular.exists_append found
      obtain ⟨left, right, divided, -, endKept⟩ := row.exists_body_tidied
      have inside : (left ++ front).length < row.body.length := by
        rw [divided, equal]
        simp only [List.length_append, List.length_cons]
        omega
      rcases List.append_eq_append_iff.mp occurs with ⟨reaching, reaches, after⟩ | ⟨rest, within, -⟩
      · obtain ⟨further, endingText⟩ :=
          regular.exists_endingText_eq known reaches fits meets others after
        refine absurd ?_ (plain.not_token regular known inside (right ++ further ++ sources rows))
        rw [divided, equal, reaches, endingText]
        cases ends : row.ending with
        | some _ => simp [endKept (by simp [ends])]
        | none =>
            rw [Row.endingText, ends, Option.elim_none] at endingText
            simp [List.append_eq_nil_iff.mp endingText.symm]
      · refine absurd ?_ (plain.not_token regular known inside
          (rest ++ right ++ (row.endingText ++ sources rows)))
        rw [divided, equal, within]
        simp

theorem Lays.tidied (regular : layout.Regular) {rows : List Row} (lays : layout.Lays rows) :
    layout.Lays (rows.map Row.tidied) := by
  induction lays with
  | nil => exact .nil
  | @cons row rows fits plain meets others ih =>
      refine .cons fits.tidied (plain.tidied regular fits meets others) ?_ ih
      cases rows with
      | nil => exact meets
      | cons next more => exact meets

end Layout

end Reflow
