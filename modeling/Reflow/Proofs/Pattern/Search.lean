import Reflow.Pattern.Search

/-!
# Where a search finds a match

A match lies in the text that was searched. An anchored pattern has no match behind a character, so
giving up at once where such a pattern does not match changes no answer.
-/

namespace Reflow.Pattern

/-- A pattern whose matches all begin at the start of the text. -/
def KeepsToStart (pattern : Pattern) : Prop :=
  ∀ (text : Text) (found : Found), pattern.find? none text = some found → found.skipped = []

@[simp] theorem reach_nil (next : Cursor → List Cursor) : reach next [] = [] := rfl

theorem Cursor.before_of_pass {spot : Option Spot} {label : Nat} {cursor passed : Cursor}
    (allowed : cursor.pass spot label = some passed) : passed.before = cursor.before := by
  cases spot with
  | none =>
      cases allowed
      rfl
  | some spot =>
      simp only [Cursor.pass] at allowed
      split at allowed
      · cases allowed
      · cases allowed
        rfl

/-- An anchored pattern does not match behind a character. -/
theorem ends_eq_nil_of_anchored {pattern : Pattern} (anchored : pattern.anchored = true)
    {spot : Option Spot} {cursor : Cursor} {char : Char} (behind : cursor.before = some char) :
    pattern.ends spot cursor = [] := by
  induction pattern generalizing spot cursor with
  | empty => cases anchored
  | oneOf set => cases anchored
  | look assertion =>
      cases assertion <;> try cases anchored
      simp [ends, Assertion.holds, behind]
  | group index body ih => simp [ends, ih anchored behind]
  | seq first second firstIH secondIH => rw [ends, firstIH anchored behind, reach_nil]
  | alt first second firstIH secondIH =>
      simp only [Pattern.anchored, Bool.and_eq_true] at anchored
      rw [ends]
      split
      · rfl
      · next passed allowed =>
        have still := (Cursor.before_of_pass allowed).trans behind
        rw [firstIH anchored.1 still, secondIH anchored.2 still]
        rfl
  | repeated least most greedy body ih => cases anchored

theorem matchHere?_eq_none_of_anchored {pattern : Pattern} (anchored : pattern.anchored = true)
    (char : Char) (text : Text) : pattern.matchHere? (some char) text = none := by
  have behind : (Cursor.start (some char) text).before = some char := rfl
  rw [matchHere?, ends_eq_nil_of_anchored anchored behind, List.head?_nil]

theorem find?_eq_none_of_anchored {pattern : Pattern} (anchored : pattern.anchored = true)
    (char : Char) (text : Text) : pattern.find? (some char) text = none := by
  cases text <;> simp [find?, matchHere?_eq_none_of_anchored anchored, anchored]

/-- A search goes on behind the first character, anchored or not. -/
theorem find?_of_matchHere?_eq_none {pattern : Pattern} {before : Option Char} {char : Char}
    {rest : Text} (noMatch : pattern.matchHere? before (char :: rest) = none) :
    pattern.find? before (char :: rest) =
      (pattern.find? (some char) rest).map fun found =>
        { found with skipped := char :: found.skipped } := by
  rw [find?, noMatch]
  dsimp only
  split
  · next anchored => rw [find?_eq_none_of_anchored anchored, Option.map_none]
  · rfl

theorem find?_of_matchHere? {pattern : Pattern} {before : Option Char} {text : Text}
    {last : Cursor} (here : pattern.matchHere? before text = some last) :
    pattern.find? before text =
      some { skipped := [], text := text.take last.place, last } := by
  rw [find?.eq_def, here]
  rfl

/-- The search of an anchored pattern is a match at the start. -/
theorem find?_of_anchored {pattern : Pattern} (anchored : pattern.anchored = true) (text : Text) :
    pattern.find? none text = (pattern.matchHere? none text).map fun last =>
      { skipped := [], text := text.take last.place, last } := by
  cases here : pattern.matchHere? none text with
  | some last => exact find?_of_matchHere? here
  | none =>
      cases text with
      | nil => simp [find?, here]
      | cons char rest =>
          rw [find?_of_matchHere?_eq_none here, find?_eq_none_of_anchored anchored]
          rfl

/-- An anchored pattern keeps to the start of a text. -/
theorem keepsToStart_of_anchored {pattern : Pattern} (anchored : pattern.anchored = true) :
    pattern.KeepsToStart := by
  intro text found search
  rw [find?_of_anchored anchored, Option.map_eq_some_iff] at search
  obtain ⟨last, -, rfl⟩ := search
  rfl

/-- A match lies in the text, behind what the search has skipped. -/
theorem exists_append_of_find? {pattern : Pattern} {before : Option Char} {text : Text}
    {found : Found} (search : pattern.find? before text = some found) :
    ∃ behind, text = found.skipped ++ found.text ++ behind := by
  induction text generalizing before found with
  | nil =>
      cases here : pattern.matchHere? before [] with
      | some last =>
          rw [find?_of_matchHere? here] at search
          cases search
          exact ⟨[], by simp⟩
      | none => simp [find?, here] at search
  | cons char rest ih =>
      cases here : pattern.matchHere? before (char :: rest) with
      | some last =>
          rw [find?_of_matchHere? here] at search
          cases search
          exact ⟨(char :: rest).drop last.place, by simp⟩
      | none =>
          rw [find?_of_matchHere?_eq_none here, Option.map_eq_some_iff] at search
          obtain ⟨later, search, rfl⟩ := search
          obtain ⟨behind, equal⟩ := ih search
          exact ⟨behind, by simp [← equal]⟩

end Reflow.Pattern
