/-!
# Texts

A text is the list of its characters. Offsets that other tools exchange are counted in bytes of the
UTF-8 encoding, so this module also measures a text in bytes and cuts it at a byte offset.
-/

namespace Reflow

/-- A sequence of Unicode characters. -/
abbrev Text := List Char

namespace Text

/-- The length of a text in bytes when it is encoded as UTF-8. -/
def byteLength : Text → Nat
  | [] => 0
  | char :: rest => char.utf8Size + byteLength rest

/-- The text after its first `count` bytes, or nothing if the cut lies beyond the end or inside a
character. -/
def dropBytes? (count : Nat) (text : Text) : Option Text :=
  match count, text with
  | 0, text => some text
  | _ + 1, [] => none
  | count + 1, char :: rest =>
      if char.utf8Size ≤ count + 1 then dropBytes? (count + 1 - char.utf8Size) rest else none

theorem byteLength_pos {text : Text} (notEmpty : text ≠ []) : 0 < text.byteLength := by
  cases text with
  | nil => exact absurd rfl notEmpty
  | cons char rest =>
      have := char.utf8Size_pos
      simp only [byteLength]
      omega

theorem length_lt_of_dropBytes? {count : Nat} {text rest : Text} (positive : 0 < count)
    (cut : text.dropBytes? count = some rest) : rest.length < text.length := by
  induction text generalizing count with
  | nil =>
      cases count with
      | zero => exact absurd positive (Nat.lt_irrefl 0)
      | succ count => simp [dropBytes?] at cut
  | cons char others ih =>
      cases count with
      | zero => exact absurd positive (Nat.lt_irrefl 0)
      | succ count =>
          simp only [dropBytes?] at cut
          split at cut
          · rcases Nat.eq_zero_or_pos (count + 1 - char.utf8Size) with zero | positive
            · simp only [zero, dropBytes?, Option.some.injEq] at cut
              simp [cut]
            · exact Nat.lt_succ_of_lt (ih positive cut)
          · simp at cut

/-- The segments of a text between the characters that `isSeparator` accepts: the first one and
those behind it. -/
def segments (isSeparator : Char → Bool) : Text → Text × List Text
  | [] => ([], [])
  | char :: rest =>
      let (first, others) := segments isSeparator rest
      if isSeparator char then ([], first :: others) else (char :: first, others)

/-- Cut a text at every character that `isSeparator` accepts and drop these characters. There is
always one segment more than there are separators. -/
def splitAt (isSeparator : Char → Bool) (text : Text) : List Text :=
  (segments isSeparator text).1 :: (segments isSeparator text).2

/-- The segments one after the other with `separator` between neighbours. -/
def joinWith (separator : Text) : List Text → Text
  | [] => []
  | [only] => only
  | first :: second :: others => first ++ separator ++ joinWith separator (second :: others)

/-- The text behind `start`, if the text begins with it. -/
def dropStart? : (start text : Text) → Option Text
  | [], text => some text
  | _ :: _, [] => none
  | expected :: start, char :: rest => if expected = char then dropStart? start rest else none

/-- A text begins with `start` if it is `start` followed by the rest. -/
theorem dropStart?_eq_some_iff {start text rest : Text} :
    dropStart? start text = some rest ↔ text = start ++ rest := by
  induction start generalizing text with
  | nil => simp [dropStart?]
  | cons expected start ih =>
      cases text with
      | nil => simp [dropStart?]
      | cons char text =>
          rw [dropStart?]
          split
          · next same => simp [same, ih]
          · next other => simp [Ne.symm other]

/-- The text before `ending`, if the text ends with it. -/
def dropEnd? (ending text : Text) : Option Text :=
  (dropStart? ending.reverse text.reverse).map List.reverse

/-- A text ends with `ending` if it is the text before it followed by `ending`. -/
theorem dropEnd?_eq_some_iff {ending text front : Text} :
    dropEnd? ending text = some front ↔ text = front ++ ending := by
  rw [dropEnd?, Option.map_eq_some_iff]
  constructor
  · rintro ⟨behind, found, rfl⟩
    have reversed := congrArg List.reverse (dropStart?_eq_some_iff.mp found)
    simpa using reversed
  · rintro rfl
    exact ⟨front.reverse, dropStart?_eq_some_iff.mpr (by simp), List.reverse_reverse front⟩

end Text

end Reflow
