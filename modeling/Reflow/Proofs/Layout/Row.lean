import Reflow.Proofs.Layout.Regular

/-!
# Rows

A text as a scan divides it. A row is what the scan puts on one line: a closing token, text without
tokens, and an opening or breaking token, each of which may be missing. Every text is a sequence of
rows in one way that fits the scan, and the marks of the scan and the lines that they draw are read
off the rows.
-/

namespace Reflow

/-- A part of a text that is put on one line. -/
structure Row where
  /-- The closing token at the start of the row. -/
  closing : Option Token
  /-- The spaces that are skipped: those behind the closing token or, without one, behind the token
  that ends the row before. -/
  gap : Text
  /-- The text that is copied. -/
  body : Text
  /-- The opening or breaking token at the end of the row. -/
  ending : Option (TokenClass × Token)

namespace Row

def closingText (row : Row) : Text :=
  row.closing.elim [] Token.text

def endingText (row : Row) : Text :=
  row.ending.elim [] (·.2.text)

/-- The text that a row is a part of. -/
def source (row : Row) : Text :=
  row.closingText ++ row.gap ++ row.body ++ row.endingText

/-- The text that is written for a row, behind its indentation. -/
def written (row : Row) : Text :=
  row.closingText ++ row.body ++ row.endingText

/-- The level of a row that comes on a level. -/
def level (before : Int) (row : Row) : Int :=
  if row.closing.isSome then before - 1 else before

/-- The level behind a row that comes on a level. -/
def levelBehind (before : Int) (row : Row) : Int :=
  row.ending.elim (row.level before) (·.1.levelBehind (row.level before))

/-- The text of rows. -/
def sources (rows : List Row) : Text :=
  (rows.map source).flatten

@[simp] theorem sources_nil : sources [] = [] := rfl

@[simp] theorem sources_cons (row : Row) (rows : List Row) :
    sources (row :: rows) = row.source ++ sources rows := rfl

/-- The marks of a scan over rows. -/
def marks (before : Int) : List Row → List Mark
  | [] => []
  | row :: rows =>
      row.closing.elim [] (fun token => TokenClass.closing.marks before token.text) ++
        row.body.map (.write [·]) ++
        row.ending.elim [] (fun (role, token) => role.marks (row.level before) token.text) ++
        marks (row.levelBehind before) rows

/-- Rows with their levels. -/
def placed (before : Int) : List Row → List (Int × Row)
  | [] => []
  | row :: rows => (row.level before, row) :: placed (row.levelBehind before) rows

/-- The line of a row on a level. -/
def line (indentation : Int → Text) (place : Int × Row) : Text :=
  indentation place.1 ++ place.2.written

/-- The lines of rows. -/
def lines (indentation : Int → Text) (before : Int) (rows : List Row) : List Text :=
  (placed before rows).map (line indentation)

end Row

namespace Layout

open Row

variable {layout : Layout}

/-- No token starts in `body`, when `after` follows. -/
def Plain (layout : Layout) (body after : Text) : Prop :=
  ∀ front char back, body = front ++ char :: back → layout.classify? (char :: back ++ after) = none

/-- A row of tokens in their roles, all spaces before the body being skipped. -/
structure Fits (layout : Layout) (row : Row) : Prop where
  closing {token : Token} (has : row.closing = some token) : layout.HasToken .closing token
  ending {role : TokenClass} {token : Token} (has : row.ending = some (role, token)) :
    layout.HasToken role token ∧ role ≠ .closing
  spaces : ∀ char ∈ row.gap, char = ' '
  stops : row.body.head? ≠ some ' '

/-- A line is ended either by its own row or by the closing token that the next row starts with. -/
def Meets (row : Row) : List Row → Prop
  | [] => row.ending = none
  | next :: _ => row.ending = none ↔ next.closing.isSome

/-- Rows that a scan divides their text into. -/
inductive Lays (layout : Layout) : List Row → Prop where
  | nil : Lays layout []
  | cons {row : Row} {rows : List Row} (fits : layout.Fits row)
      (plain : layout.Plain row.body (row.endingText ++ sources rows)) (meets : Meets row rows)
      (others : Lays layout rows) : Lays layout (row :: rows)

/-! ## Every text has rows -/

theorem Plain.nil (after : Text) : layout.Plain [] after := by
  intro front char back equal
  simp at equal

theorem Plain.cons {char : Char} {body after : Text}
    (first : layout.classify? (char :: body ++ after) = none) (others : layout.Plain body after) :
    layout.Plain (char :: body) after := by
  intro front other back equal
  cases front with
  | nil =>
      rw [List.nil_append] at equal
      rw [← equal]
      exact first
  | cons _ front =>
      rw [List.cons_append, List.cons.injEq] at equal
      exact others front other back equal.2

theorem Plain.head {char : Char} {body after : Text} (plain : layout.Plain (char :: body) after) :
    layout.classify? (char :: body ++ after) = none :=
  plain [] char body rfl

theorem Plain.tail {char : Char} {body after : Text} (plain : layout.Plain (char :: body) after) :
    layout.Plain body after := by
  intro front other back equal
  exact plain (char :: front) other back (by rw [equal, List.cons_append])

/-- A text up to its first token. -/
theorem exists_plain_append (layout : Layout) (text : Text) :
    ∃ body after, text = body ++ after ∧ layout.Plain body after ∧
      (after = [] ∨ ∃ role token, layout.classify? after = some (role, token)) := by
  induction text with
  | nil => exact ⟨[], [], rfl, .nil [], .inl rfl⟩
  | cons char rest ih =>
      cases found : layout.classify? (char :: rest) with
      | some match' => exact ⟨[], char :: rest, rfl, .nil _, .inr ⟨_, _, found⟩⟩
      | none =>
          obtain ⟨body, after, rfl, plain, stops⟩ := ih
          exact ⟨char :: body, after, rfl, plain.cons found, stops⟩

/-- A text up to its first token, without the spaces at its start. -/
theorem exists_gap_append (layout : Layout) (text : Text) :
    ∃ gap body after, text = gap ++ body ++ after ∧ (∀ char ∈ gap, char = ' ') ∧
      body.head? ≠ some ' ' ∧ layout.Plain body after ∧
      (after = [] ∨ ∃ role token, layout.classify? after = some (role, token)) := by
  obtain ⟨body, after, divided, plain, stops⟩ :=
    exists_plain_append layout (text.dropWhile (· == ' '))
  refine ⟨text.takeWhile (· == ' '), body, after, ?_, ?_, ?_, plain, stops⟩
  · rw [List.append_assoc, ← divided, List.takeWhile_append_dropWhile]
  · intro char member
    simpa using List.all_eq_true.mp (List.all_takeWhile (l := text)) char member
  · intro space
    have first := List.head?_dropWhile_not (· == ' ') text
    rw [divided, List.head?_append, space] at first
    simp at first

/-- A closing token before rows joins the first of them. -/
theorem Lays.close {next : Row} {rows : List Row} {token : Token}
    (lays : layout.Lays (next :: rows)) (known : layout.HasToken .closing token) :
    layout.Lays ({ next with closing := some token } :: rows) := by
  cases lays with
  | cons fits plain meets others =>
      refine .cons ?_ plain meets others
      exact { fits with closing := fun has => Option.some.inj has ▸ known }

/-- Every text is the text of rows, the first of which has no closing token. -/
theorem exists_lays (regular : layout.Regular) (text : Text) :
    ∃ first rest, layout.Lays (first :: rest) ∧ first.closing = none ∧
      sources (first :: rest) = text := by
  induction size : text.length using Nat.strongRecOn generalizing text with
  | ind length ih =>
      obtain ⟨gap, body, after, rfl, spaces, bodyStops, plain, stops⟩ :=
        exists_gap_append layout text
      rcases stops with rfl | ⟨role, token, found⟩
      · refine ⟨⟨none, gap, body, none⟩, [], .cons ?_ (by simpa [endingText] using plain) rfl .nil,
          rfl, by simp [source, closingText, endingText]⟩
        exact { closing := by simp, ending := by simp, spaces, stops := bodyStops }
      · have known : layout.HasToken role token := ⟨_, found⟩
        obtain ⟨left, rfl⟩ := regular.exists_append found
        have shorter : left.length < length := by
          have positive := List.length_pos_of_ne_nil known.ne_nil
          simp only [List.length_append] at size
          omega
        obtain ⟨next, rest, others, opens, rfl⟩ := ih left.length shorter left rfl
        by_cases closes : role = .closing
        · subst closes
          refine ⟨⟨none, gap, body, none⟩, { next with closing := some token } :: rest,
            .cons ?_ ?_ (iff_of_true rfl rfl) (others.close known), rfl, ?_⟩
          · exact { closing := by simp, ending := by simp, spaces, stops := bodyStops }
          · simpa [endingText, source, closingText, opens] using plain
          · simp [source, closingText, endingText, opens]
        · refine ⟨⟨none, gap, body, some (role, token)⟩, next :: rest,
            .cons ?_ ?_ ?_ others, rfl, ?_⟩
          · refine { closing := by simp, ending := ?_, spaces, stops := bodyStops }
            intro otherRole other has
            cases has
            exact ⟨known, closes⟩
          · simpa [endingText] using plain
          · simp [Meets, opens]
          · simp [source, closingText, endingText]

/-! ## The scan over rows -/

theorem scan_append {body after : Text} (plain : layout.Plain body after) (level : Int) :
    layout.scan level false (body ++ after) =
      (layout.scan level false after).map (body.map (.write [·]) ++ ·) := by
  induction body with
  | nil => simp
  | cons char body ih =>
      have notFound : layout.classify? (char :: (body ++ after)) = none := plain.head
      rw [List.cons_append, scan_cons notFound, ih plain.tail, Option.map_map]
      rfl

/-- What comes behind the body of a row is a token, or nothing. -/
theorem exists_token_of_meets {row : Row} {rows : List Row} (fits : layout.Fits row)
    (meets : Meets row rows) (others : layout.Lays rows) :
    row.endingText ++ sources rows = [] ∨
      ∃ role token rest, layout.HasToken role token ∧
        row.endingText ++ sources rows = token.text ++ rest := by
  cases ends : row.ending with
  | some match' =>
      right
      exact ⟨_, _, sources rows, (fits.ending ends).1, by rw [endingText, ends]; rfl⟩
  | none =>
      cases others with
      | nil => exact .inl (by simp [endingText, ends])
      | @cons next more nextFits =>
          right
          obtain ⟨token, closes⟩ := Option.isSome_iff_exists.mp (meets.mp ends)
          refine ⟨_, token, next.gap ++ next.body ++ next.endingText ++ sources more,
            nextFits.closing closes, ?_⟩
          simp [endingText, source, closingText, ends, closes]

/-- Behind the body of a row the scan gives the same marks whether or not it skips spaces. -/
theorem scan_after {row : Row} {rows : List Row} (regular : layout.Regular)
    (fits : layout.Fits row) (meets : Meets row rows) (others : layout.Lays rows) (level : Int) :
    (row.endingText ++ sources rows).head? ≠ some ' ' ∧
      layout.scan level true (row.endingText ++ sources rows) =
        layout.scan level false (row.endingText ++ sources rows) := by
  have stops : (row.endingText ++ sources rows).head? ≠ some ' ' := by
    rcases exists_token_of_meets fits meets others with empty | ⟨role, token, rest, known, equal⟩
    · simp [empty]
    · rw [equal]
      exact regular.head?_ne_space known rest
  exact ⟨stops, regular.scan_of_head?_ne stops⟩

section Rest

variable {row : Row} {rows : List Row} (regular : layout.Regular) (fits : layout.Fits row)
  (meets : Meets row rows) (others : layout.Lays rows)
  (further : ∀ level, layout.scan level true (sources rows) = some (marks level rows))
include regular fits meets others further

theorem scan_endingText (before : Int) :
    layout.scan (row.level before) false (row.endingText ++ sources rows) =
      some (row.ending.elim [] (fun (role, token) => role.marks (row.level before) token.text) ++
        marks (row.levelBehind before) rows) := by
  cases ends : row.ending with
  | none =>
      rw [← (scan_after regular fits meets others (row.level before)).2]
      simpa [endingText, levelBehind, ends] using further (row.level before)
  | some match' =>
      obtain ⟨role, token⟩ := match'
      have known := (fits.ending ends).1
      simp [endingText, levelBehind, ends, regular.scan_token known, further]

/-- The marks of a row from its gap on. -/
theorem scan_gap_append (plain : layout.Plain row.body (row.endingText ++ sources rows))
    (before : Int) :
    layout.scan (row.level before) true
        (row.gap ++ (row.body ++ (row.endingText ++ sources rows))) =
      some (row.body.map (.write [·]) ++
        (row.ending.elim [] (fun (role, token) => role.marks (row.level before) token.text) ++
          marks (row.levelBehind before) rows)) := by
  have stops : (row.body ++ (row.endingText ++ sources rows)).head? ≠ some ' ' := by
    cases body : row.body with
    | nil => exact (scan_after regular fits meets others (row.level before)).1
    | cons char rest =>
        have bodyStops := fits.stops
        rw [body] at bodyStops
        exact bodyStops
  rw [regular.scan_gap fits.spaces stops, scan_append plain,
    scan_endingText regular fits meets others further, Option.map_some]

end Rest

/-- The scan of rows puts their marks on paper. -/
theorem scan_sources (regular : layout.Regular) {rows : List Row} (lays : layout.Lays rows)
    (before : Int) : layout.scan before true (sources rows) = some (marks before rows) := by
  induction lays generalizing before with
  | nil => simp [marks]
  | @cons row rows fits plain meets others ih =>
      have behind := scan_gap_append regular fits meets others ih plain before
      cases closes : row.closing with
      | none =>
          have same : row.level before = before := by simp [level, closes]
          rw [same] at behind
          simpa [source, closingText, marks, closes, same] using behind
      | some token =>
          have up : row.level before = TokenClass.closing.levelBehind before := by
            simp [level, closes, TokenClass.levelBehind]
          rw [up] at behind
          simp [source, closingText, marks, closes, regular.scan_token (fits.closing closes),
            behind, up]

/-! ## The lines of rows -/

section Drawing

variable (indentation : Int → Text)

theorem draw_append (body : Text) (behind : List Mark) :
    Mark.draw indentation (body.map (.write [·]) ++ behind) =
      (body ++ (Mark.draw indentation behind).1, (Mark.draw indentation behind).2) := by
  induction body with
  | nil => rfl
  | cons char body ih =>
      rw [List.map_cons, List.cons_append, Mark.draw, ih]
      rfl

theorem draw_ending {role : TokenClass} (opens : role ≠ .closing) (level : Int) (text : Text)
    (behind : List Mark) :
    Mark.draw indentation (role.marks level text ++ behind) =
      (text, (indentation (role.levelBehind level) ++ (Mark.draw indentation behind).1) ::
        (Mark.draw indentation behind).2) := by
  cases role with
  | closing => exact absurd rfl opens
  | opening => simp [TokenClass.marks, TokenClass.levelBehind, Mark.draw]
  | breaking => simp [TokenClass.marks, TokenClass.levelBehind, Mark.draw]

/-- What rows draw: their first line is the current one, unless it starts with a closing token. -/
def drawn (before : Int) : List Row → Text × List Text
  | [] => ([], [])
  | row :: rows =>
      if row.closing.isSome then ([], lines indentation before (row :: rows))
      else (row.written, lines indentation (row.levelBehind before) rows)

/-- The marks of rows draw their lines. -/
theorem draw_marks {rows : List Row} (lays : layout.Lays rows) (before : Int) :
    Mark.draw indentation (marks before rows) = drawn indentation before rows := by
  induction lays generalizing before with
  | nil => rfl
  | @cons row rows fits plain meets others ih =>
      have behindBody : Mark.draw indentation
          (row.ending.elim [] (fun (role, token) => role.marks (row.level before) token.text) ++
            marks (row.levelBehind before) rows) =
          (row.endingText, lines indentation (row.levelBehind before) rows) := by
        cases ends : row.ending with
        | none =>
            rw [Option.elim_none, List.nil_append, ih]
            cases rows with
            | nil => simp [drawn, lines, placed, endingText, ends]
            | cons next more => simp [drawn, endingText, ends, meets.mp ends]
        | some match' =>
            obtain ⟨role, token⟩ := match'
            cases rows with
            | nil => cases meets.symm.trans ends
            | cons next more =>
                have opens : next.closing = none := by
                  simpa [ends, Meets] using meets
                rw [Option.elim_some, draw_ending indentation (fits.ending ends).2, ih]
                simp [drawn, lines, placed, line, endingText, levelBehind, level, ends, opens]
      rw [marks, List.append_assoc, List.append_assoc]
      cases closes : row.closing with
      | none =>
          rw [Option.elim_none, List.nil_append, draw_append, behindBody]
          simp [drawn, written, closingText, closes]
      | some token =>
          rw [Option.elim_some, TokenClass.marks, List.cons_append, List.cons_append,
            List.nil_append, Mark.draw, Mark.draw, draw_append, behindBody]
          simp [drawn, lines, placed, line, written, closingText, level, closes]

end Drawing

/-- A text that is the text of rows is laid out in their lines. -/
theorem lines?_eq (regular : layout.Regular) {text : Text} {first : Row} {rest : List Row}
    (lays : layout.Lays (first :: rest)) (opens : first.closing = none)
    (divided : text.unbroken = sources (first :: rest)) :
    layout.lines? text = some
      ((lines layout.options.indentation 0 (first :: rest)).filter fun line => !line.blank) := by
  have stops : text.unbroken.head? ≠ some ' ' := by
    intro space
    have started : Text.trimStart text.unbroken = text.unbroken := Text.trimStart_withoutBreaks text
    cases equal : text.unbroken with
    | nil => simp [equal] at space
    | cons char others =>
        have inked := Text.isBlank_eq_false_of_trimStart (started.trans equal)
        rw [equal, List.head?_cons, Option.some.injEq] at space
        subst space
        exact absurd inked (by decide)
  rw [lines?, ← regular.scan_of_head?_ne stops, divided, scan_sources regular lays,
    Option.map_some, Mark.lines, draw_marks _ lays]
  have margin : layout.options.indentation 0 = [] := by simp [LayoutOptions.indentation]
  simp [drawn, opens, lines, placed, line, level, margin]

end Layout

end Reflow
