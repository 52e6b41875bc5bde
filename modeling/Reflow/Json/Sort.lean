import Reflow.Json.Basic

/-!
# Sorting

Sorting puts the members of every object in the order of their keys, and the items of an array in
order if they are all strings, all numbers or all booleans. Texts are compared character by
character, which is also the order of their UTF-8 bytes.
-/

namespace Reflow.Json

/-- The direction of an order. -/
inductive SortOrder where
  | ascending
  | descending
deriving DecidableEq, Repr

namespace SortOrder

/-- Put a list in order, given the ascending order. Equal elements keep their order when ascending.
-/
def arrange {α : Type} (order : SortOrder) (le : α → α → Bool) (list : List α) : List α :=
  match order with
  | .ascending => list.mergeSort le
  | .descending => (list.mergeSort le).reverse

end SortOrder

/-- Whether a text does not come behind another. The order of code points is also the order of the
bytes that encode them. -/
def textLe : Text → Text → Bool
  | [], _ => true
  | _ :: _, [] => false
  | first :: left, second :: right =>
      first.toNat < second.toNat || (first == second && textLe left right)

/-- Whether a value does not come behind another of its kind. -/
def scalarLe : Value → Value → Bool
  | .string left, .string right => textLe left right
  | .bool left, .bool right => !left || right
  | .number left, .number right => left.le right
  | _, _ => true

/-- Whether items have a common kind whose values are put in order. -/
def uniform (items : List Value) : Bool :=
  match items with
  | [] => false
  | item :: items => item.kind.sortable && items.all (·.kind == item.kind)

mutual

/-- A value with all objects and all uniform arrays in order. -/
def Value.sort (order : SortOrder) : Value → Value
  | .array items =>
      if uniform items then .array (order.arrange scalarLe items)
      else .array (sortItems order items)
  | .object members =>
      .object (order.arrange (fun left right => textLe left.1 right.1) (sortMembers order members))
  | value => value

/-- Items sorted one by one. -/
def sortItems (order : SortOrder) : List Value → List Value
  | [] => []
  | item :: items => item.sort order :: sortItems order items

/-- Members with their values sorted one by one. -/
def sortMembers (order : SortOrder) : List (Text × Value) → List (Text × Value)
  | [] => []
  | (key, value) :: members => (key, value.sort order) :: sortMembers order members

end

end Reflow.Json
