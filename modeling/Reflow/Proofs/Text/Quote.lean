import Mathlib.Data.List.Basic
import Reflow.Text.Quote

/-!
# Escaped and plain quotes

Every double quote of an escaped text stands right behind a backslash, and reading takes just these
backslashes away. So reading undoes escaping, and escaping undoes reading exactly for the texts in
which every double quote stands behind a backslash.
-/

namespace Reflow.Text

/-- A text in which every double quote stands right behind a backslash. -/
def QuotesEscaped (text : Text) : Prop :=
  ∀ before after, text = before ++ '"' :: after → before.getLast? = some '\\'

variable {char : Char} {front rest text : Text}

/-! ## Texts with escaped quotes -/

theorem quotesEscaped_nil : QuotesEscaped [] := by
  intro before after equal
  cases before <;> cases equal

/-- A double quote at the start has no backslash before it. -/
theorem QuotesEscaped.head?_ne (escaped : QuotesEscaped text) : text.head? ≠ some '"' := by
  intro first
  obtain ⟨rest, rfl⟩ := List.head?_eq_some_iff.mp first
  cases escaped [] rest rfl

/-- A text may be cut before its quotes are looked at, but not between a backslash and a quote. -/
theorem quotesEscaped_append_iff (meet : rest.head? = some '"' → front.getLast? ≠ some '\\') :
    QuotesEscaped (front ++ rest) ↔ QuotesEscaped front ∧ QuotesEscaped rest := by
  constructor
  · intro escaped
    constructor
    · rintro before after rfl
      exact escaped before (after ++ rest) (by simp)
    · rintro before after rfl
      have last := escaped (front ++ before) after (by simp)
      cases before with
      | nil => exact absurd (by simpa using last) (meet rfl)
      | cons char before => rwa [List.getLast?_append_of_ne_nil _ (List.cons_ne_nil _ _)] at last
  · rintro ⟨inFront, inRest⟩ before after equal
    rcases List.append_eq_append_iff.mp equal with ⟨middle, rfl, rfl⟩ | ⟨middle, rfl, split⟩
    · have last := inRest middle after rfl
      rw [List.getLast?_append, last, Option.some_or]
    · cases middle with
      | nil => exact absurd (congrArg List.head? split.symm) inRest.head?_ne
      | cons char middle =>
          obtain ⟨rfl, -⟩ := List.cons.inj split
          exact inFront before middle rfl

theorem quotesEscaped_pair : QuotesEscaped ['\\', '"'] := by
  intro before after equal
  match before with
  | [] => cases equal
  | [_] =>
      cases equal
      rfl
  | _ :: _ :: _ => simp at equal

theorem quotesEscaped_singleton (notQuote : char ≠ '"') : QuotesEscaped [char] := by
  intro before after equal
  match before with
  | [] =>
      cases equal
      exact absurd rfl notQuote
  | _ :: _ => simp at equal

/-! ## Escaping -/

theorem escapeQuotes_cons (notQuote : char ≠ '"') (rest : Text) :
    escapeQuotes (char :: rest) = char :: escapeQuotes rest := by
  rw [escapeQuotes]
  exact notQuote

/-- What is written starts with no quote. -/
theorem head?_escapeQuotes_ne (text : Text) : (escapeQuotes text).head? ≠ some '"' := by
  fun_cases escapeQuotes text with
  | case1 => simp
  | case2 => simp
  | case3 char rest notQuote => simpa using notQuote

theorem quotesEscaped_escapeQuotes (text : Text) : QuotesEscaped (escapeQuotes text) := by
  fun_induction escapeQuotes text with
  | case1 => exact quotesEscaped_nil
  | case2 rest ih =>
      refine (@quotesEscaped_append_iff ['\\', '"'] _ fun first => ?_).mpr
        ⟨quotesEscaped_pair, ih⟩
      exact absurd first (head?_escapeQuotes_ne rest)
  | case3 char rest notQuote ih =>
      refine (@quotesEscaped_append_iff [char] _ fun first => ?_).mpr
        ⟨quotesEscaped_singleton notQuote, ih⟩
      exact absurd first (head?_escapeQuotes_ne rest)

/-! ## Reading -/

theorem unescapeQuotes_cons (apart : char = '\\' → rest.head? ≠ some '"') :
    unescapeQuotes (char :: rest) = char :: unescapeQuotes rest := by
  rw [unescapeQuotes]
  rintro behind rfl rfl
  exact apart rfl rfl

/-- Reading undoes escaping: behind a character that is written as it is, no quote follows. -/
theorem unescapeQuotes_escapeQuotes (text : Text) :
    unescapeQuotes (escapeQuotes text) = text := by
  fun_induction escapeQuotes text with
  | case1 => rfl
  | case2 rest ih => rw [unescapeQuotes, ih]
  | case3 char rest notQuote ih =>
      rw [unescapeQuotes_cons fun _ => head?_escapeQuotes_ne rest, ih]

/-- Escaping undoes reading, if every quote is escaped. -/
theorem escapeQuotes_unescapeQuotes (escaped : QuotesEscaped text) :
    escapeQuotes (unescapeQuotes text) = text := by
  fun_induction unescapeQuotes text with
  | case1 => rfl
  | case2 rest ih =>
      have behind := (@quotesEscaped_append_iff ['\\', '"'] rest (by simp)).mp escaped
      rw [escapeQuotes, ih behind.2]
  | case3 char rest apart ih =>
      have notQuote : char ≠ '"' := fun same => escaped.head?_ne (congrArg some same)
      have meet : rest.head? = some '"' → [char].getLast? ≠ some '\\' := by
        intro first last
        obtain ⟨others, rfl⟩ := List.head?_eq_some_iff.mp first
        exact apart others (by simpa using last) rfl
      have behind := (@quotesEscaped_append_iff [char] rest meet).mp escaped
      rw [escapeQuotes_cons notQuote, ih behind.2]

/-- Reading always undoes escaping. Escaping undoes reading exactly if every double quote of the
text stands right behind a backslash. -/
theorem escapeQuotes_unescapeQuotes_inverse (text : Text) :
    unescapeQuotes (escapeQuotes text) = text ∧
      (escapeQuotes (unescapeQuotes text) = text ↔
        ∀ before after, text = before ++ '"' :: after → before.getLast? = some '\\') := by
  refine ⟨unescapeQuotes_escapeQuotes text, ?_⟩
  constructor
  · intro same
    have escaped := quotesEscaped_escapeQuotes (unescapeQuotes text)
    rw [same] at escaped
    exact escaped
  · intro escaped
    exact escapeQuotes_unescapeQuotes escaped

/-- Of two quotes behind one backslash, the second has none before it and gets one. -/
example : escapeQuotes (unescapeQuotes ['\\', '"', '"']) = ['\\', '"', '\\', '"'] := rfl

end Reflow.Text
