import Reflow.Json.Weight

/-!
# Expanding embedded JSON

A string that is an item or the value of a member may hold a JSON array or object in its turn.
Expanding puts the value in place of the string, and goes on inside of it. This ends, since a text
weighs more as a string than as the value that it denotes. Keys of expanded members can be marked
with a suffix; without marking, keys that carry the suffix lose it.
-/

namespace Reflow.Json

/-- The suffix that marks the key of an expanded member. -/
def expansionMark : Text := " [@String]".toList

/-- The array or object that a text denotes, if it denotes one. -/
def embedded? (text : Text) : Option Value :=
  match readDocument text with
  | .ok (.array items) => some (.array items)
  | .ok (.object members) => some (.object members)
  | _ => none

/-- The array or object that a value holds as a string, if it does. -/
def Value.embedded? : Value → Option Value
  | .string text => Json.embedded? text
  | _ => none

/-- The value that a text denotes weighs at most as much as the text has characters. -/
theorem weight_le_of_embedded? {text : Text} {value : Value}
    (found : Json.embedded? text = some value) : value.weight ≤ text.length := by
  unfold Json.embedded? at found
  split at found
  · rename_i read
    cases found
    exact weight_le_of_readDocument read
  · rename_i read
    cases found
    exact weight_le_of_readDocument read
  · simp at found

/-- A string weighs more than the value that it holds. -/
theorem Value.weight_lt_of_embedded? {value inner : Value}
    (found : value.embedded? = some inner) : inner.weight < value.weight := by
  cases value <;> simp only [Value.embedded?, reduceCtorEq] at found
  have := weight_le_of_embedded? found
  simp only [Value.weight]
  omega

/-- The key of a member behind expansion. -/
def expandedKey (mark : Bool) (embedded : Bool) (key : Text) : Text :=
  match mark, embedded with
  | true, true => key ++ expansionMark
  | true, false => key
  | false, true => key
  | false, false => (Text.dropEnd? expansionMark key).getD key

mutual

/-- A value with all strings inside of it expanded. A string that stands alone stays as it is. -/
def Value.expand (mark : Bool) (value : Value) : Value :=
  match value with
  | .array items => .array (expandItems mark items)
  | .object members => .object (collectMembers (expandMembers mark members))
  | value => value
termination_by (value.weight, 0)
decreasing_by all_goals exact Prod.Lex.left _ _ (by simp only [Value.weight]; omega)

/-- An item or the value of a member, expanded. -/
def expandPart (mark : Bool) (value : Value) : Value :=
  match _ : value.embedded? with
  | some inner => inner.expand mark
  | none => value.expand mark
termination_by (value.weight, 1)
decreasing_by
  · exact Prod.Lex.left _ _ (Value.weight_lt_of_embedded? (by assumption))
  · exact Prod.Lex.right _ (by decide)

/-- Items expanded one by one. -/
def expandItems (mark : Bool) (items : List Value) : List Value :=
  match items with
  | [] => []
  | item :: items => expandPart mark item :: expandItems mark items
termination_by (itemsWeight items, 2)
decreasing_by
  · rcases Nat.eq_zero_or_pos (itemsWeight items) with zero | positive
    · simp only [itemsWeight, zero, Nat.add_zero]
      exact Prod.Lex.right _ (by decide)
    · exact Prod.Lex.left _ _ (by simp only [itemsWeight]; omega)
  · have := item.weight_pos
    exact Prod.Lex.left _ _ (by simp only [itemsWeight]; omega)

/-- Members expanded one by one. Keys may come to be equal. -/
def expandMembers (mark : Bool) (members : List (Text × Value)) : List (Text × Value) :=
  match members with
  | [] => []
  | (key, value) :: members =>
      (expandedKey mark value.embedded?.isSome key, expandPart mark value) ::
        expandMembers mark members
termination_by (membersWeight members, 2)
decreasing_by
  · rcases Nat.eq_zero_or_pos (key.length + membersWeight members) with zero | positive
    · obtain ⟨keyZero, othersZero⟩ := Nat.add_eq_zero_iff.mp zero
      simp only [membersWeight, keyZero, othersZero, Nat.add_zero, Nat.zero_add]
      exact Prod.Lex.right _ (by decide)
    · exact Prod.Lex.left _ _ (by simp only [membersWeight]; omega)
  · have := value.weight_pos
    exact Prod.Lex.left _ _ (by simp only [membersWeight]; omega)

end

end Reflow.Json
