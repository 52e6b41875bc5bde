import Mathlib
import Reflow.Proofs.Binary64.Order
import Reflow.Proofs.Json.Within
import Reflow.Proofs.Text.ByteOrder

/-!
# What sorting does

Sorting puts the members of all objects and the items of all uniform arrays in order, and it only
moves them about. The order of keys and strings is that of their bytes, and the order of numbers is
that of their values as floating point numbers.
-/

namespace Reflow.Json

/-! ## Lists in order -/

namespace SortOrder

/-- A list each element of which is related to all behind it, or for the descending order, to all
before it. -/
def Sorted {α : Type} (order : SortOrder) (related : α → α → Prop) (list : List α) : Prop :=
  match order with
  | .ascending => list.Pairwise related
  | .descending => list.Pairwise fun left right => related right left

variable {order : SortOrder} {α β : Type} {le : α → α → Bool}

theorem arrange_perm (order : SortOrder) (le : α → α → Bool) (list : List α) :
    (order.arrange le list).Perm list := by
  cases order with
  | ascending => exact list.mergeSort_perm le
  | descending => exact (List.reverse_perm _).trans (list.mergeSort_perm le)

theorem sorted_arrange (trans : ∀ left middle right, le left middle = true →
      le middle right = true → le left right = true)
    (total : ∀ left right, (le left right || le right left) = true) (list : List α) :
    order.Sorted (le · · = true) (order.arrange le list) := by
  have ascending := List.pairwise_mergeSort trans total list
  cases order with
  | ascending => exact ascending
  | descending => exact List.pairwise_reverse.mpr ascending

/-- Images are put in order as their originals are, where they are compared likewise. -/
theorem map_arrange {other : β → β → Bool} {image : α → β} {list : List α}
    (same : ∀ left ∈ list, ∀ right ∈ list, le left right = other (image left) (image right)) :
    (order.arrange le list).map image = order.arrange other (list.map image) := by
  cases order with
  | ascending => exact List.map_mergeSort same
  | descending => rw [arrange, List.map_reverse, List.map_mergeSort same, arrange]

theorem Sorted.imp {related other : α → α → Prop} {list : List α}
    (implies : ∀ {left right}, related left right → other left right)
    (sorted : order.Sorted related list) : order.Sorted other list := by
  cases order with
  | ascending => exact List.Pairwise.imp implies sorted
  | descending => exact List.Pairwise.imp implies sorted

/-- Between elements that differ an order is strict. -/
theorem Sorted.strict {related strictly : α → α → Prop} {list : List α} (distinct : list.Nodup)
    (implies : ∀ {left right}, left ≠ right → related left right → strictly left right)
    (sorted : order.Sorted related list) : order.Sorted strictly list := by
  cases order with
  | ascending => exact distinct.imp₂ (fun _ _ differ le => implies differ le) sorted
  | descending => exact distinct.imp₂ (fun _ _ differ le => implies differ.symm le) sorted

end SortOrder

/-! ## Uniform arrays -/

/-- Items that are all strings, all numbers or all booleans. -/
def Uniform (items : List Value) : Prop :=
  ∃ kind : Kind, kind.sortable = true ∧ ∀ item ∈ items, item.kind = kind

theorem Uniform.isScalar {items : List Value} (uniform : Uniform items) {item : Value}
    (listed : item ∈ items) : item.isScalar = true := by
  obtain ⟨kind, sortable, same⟩ := uniform
  rw [← same item listed] at sortable
  cases item <;> first | rfl | cases sortable

theorem uniform_eq_true_iff {items : List Value} :
    uniform items = true ↔ items ≠ [] ∧ Uniform items := by
  cases items with
  | nil => simp [uniform]
  | cons item items =>
      simp only [uniform, Bool.and_eq_true, List.all_eq_true, beq_iff_eq, ne_eq, reduceCtorEq,
        not_false_eq_true, true_and]
      constructor
      · rintro ⟨sortable, same⟩
        exact ⟨item.kind, sortable, List.forall_mem_cons.mpr ⟨rfl, same⟩⟩
      · rintro ⟨kind, sortable, same⟩
        obtain ⟨rfl, others⟩ := List.forall_mem_cons.mp same
        exact ⟨sortable, others⟩

/-! ## The passes over items and members -/

theorem sortItems_eq (order : SortOrder) (items : List Value) :
    sortItems order items = items.map (Value.sort order) := by
  induction items with
  | nil => rfl
  | cons item items ih => rw [sortItems, ih, List.map_cons]

theorem sortMembers_eq (order : SortOrder) (members : List Member) :
    sortMembers order members = members.map fun member => (member.1, member.2.sort order) := by
  induction members with
  | nil => rfl
  | cons member members ih => rw [sortMembers, ih, List.map_cons]

@[simp] theorem sort_of_isScalar {order : SortOrder} {value : Value}
    (scalar : value.isScalar = true) : value.sort order = value := by
  cases value with
  | array => cases scalar
  | object => cases scalar
  | _ => rfl

/-- Uniform items are put in order. That there may be none makes no difference. -/
theorem sort_array_of_uniform (order : SortOrder) {items : List Value} (same : Uniform items) :
    (Value.array items).sort order = .array (order.arrange scalarLe items) := by
  rw [Value.sort]
  split
  · rfl
  · next mixed =>
    obtain rfl : items = [] := by
      by_contra notEmpty
      exact mixed (uniform_eq_true_iff.mpr ⟨notEmpty, same⟩)
    cases order <;> simp [sortItems, SortOrder.arrange]

/-- Other items stay where they are. -/
theorem sort_array_of_not_uniform (order : SortOrder) {items : List Value}
    (mixed : ¬Uniform items) :
    (Value.array items).sort order = .array (items.map (Value.sort order)) := by
  rw [Value.sort, if_neg fun same => mixed (uniform_eq_true_iff.mp same).2, sortItems_eq]

@[simp] theorem sort_object (order : SortOrder) (members : List Member) :
    (Value.object members).sort order =
      .object (order.arrange (fun left right => textLe left.1 right.1)
        (members.map fun member => (member.1, member.2.sort order))) := by
  rw [Value.sort, sortMembers_eq]

@[simp] theorem kind_sort (order : SortOrder) (value : Value) :
    (value.sort order).kind = value.kind := by
  cases value with
  | array items => rw [Value.sort]; split <;> rfl
  | object members => rfl
  | _ => rfl

/-! ## Only moved about -/

/-- A value that differs from another one in the order of members and in the order of the items of
uniform arrays, at any depth, and in nothing else. -/
inductive Rearranged : Value → Value → Prop where
  | scalar {value : Value} (scalar : value.isScalar = true) : Rearranged value value
  | uniform {items others : List Value} (uniform : Uniform items) (permuted : items.Perm others) :
      Rearranged (.array items) (.array others)
  | array {items others : List Value} (mixed : ¬Uniform items)
      (each : List.Forall₂ Rearranged items others) : Rearranged (.array items) (.array others)
  | object {members inside others : List Member}
      (keys : members.map Prod.fst = inside.map Prod.fst)
      (values : List.Forall₂ Rearranged (members.map Prod.snd) (inside.map Prod.snd))
      (permuted : inside.Perm others) : Rearranged (.object members) (.object others)

/-- Sorting only moves members and the items of uniform arrays about. -/
theorem rearranged_sort (order : SortOrder) (value : Value) :
    Rearranged value (value.sort order) := by
  induction value with
  | scalar value scalar =>
      rw [sort_of_isScalar scalar]
      exact .scalar scalar
  | array items ih =>
      by_cases same : Uniform items
      · rw [sort_array_of_uniform order same]
        exact .uniform same (order.arrange_perm scalarLe items).symm
      · rw [sort_array_of_not_uniform order same]
        refine .array same (List.forall₂_map_right_iff.mpr ?_)
        exact List.forall₂_same.mpr ih
  | object members ih =>
      rw [sort_object]
      refine .object ?_ ?_ (order.arrange_perm _ _).symm
      · rw [List.map_map]
        rfl
      · rw [List.map_map, List.forall₂_map_left_iff, List.forall₂_map_right_iff]
        exact List.forall₂_same.mpr ih

/-! ## In order -/

/-- A value, whatever is inside of it, is in order: an object by its keys, and an array of strings,
booleans or numbers by its items. -/
structure InOrder (order : SortOrder) (value : Value) : Prop where
  keys {members : List Member} (same : value = .object members) :
    order.Sorted (Text.bytes · < Text.bytes ·) (members.map Prod.fst)
  strings {texts : List Text} (same : value = .array (texts.map .string)) :
    order.Sorted (Text.bytes · ≤ Text.bytes ·) texts
  bools {bools : List Bool} (same : value = .array (bools.map .bool)) :
    order.Sorted (· ≤ ·) bools
  numbers {numbers : List Number} (same : value = .array (numbers.map .number)) :
    order.Sorted (·.toBinary64.toRat ≤ ·.toBinary64.toRat) numbers

variable {order : SortOrder}

/-- Numbers are compared by their values as floating point numbers. -/
theorem Number.le_iff {left right : Number} :
    left.le right = true ↔ left.toBinary64.toRat ≤ right.toBinary64.toRat := by
  rw [Number.le, decide_eq_true_iff, Binary64.key_le_key_iff]

theorem Number.le_trans (left middle right : Number) (first : left.le middle = true)
    (second : middle.le right = true) : left.le right = true := by
  rw [le_iff] at *
  exact first.trans second

theorem Number.le_total (left right : Number) : (left.le right || right.le left) = true := by
  rw [Bool.or_eq_true, le_iff, le_iff]
  exact LinearOrder.le_total _ _

theorem inOrder_of_isScalar {value : Value} (scalar : value.isScalar = true) :
    InOrder order value := by
  constructor <;> (rintro _ rfl; cases scalar)

/-- A sorted array of items that are all built in the same way is in order, if items that are built
in this way are compared by what they are built from. -/
theorem sorted_of_sort_array {α : Type} {build : α → Value} {le : α → α → Bool}
    (uniform : ∀ list : List α, Uniform (list.map build)) (injective : Function.Injective build)
    (compared : ∀ left right, scalarLe (build left) (build right) = le left right)
    (trans : ∀ left middle right, le left middle = true → le middle right = true →
      le left right = true)
    (total : ∀ left right, (le left right || le right left) = true) {items : List Value}
    {list : List α} (same : (Value.array items).sort order = .array (list.map build)) :
    order.Sorted (le · · = true) list := by
  have uniformItems : Uniform items := by
    by_contra mixed
    rw [sort_array_of_not_uniform order mixed, Value.array.injEq] at same
    obtain ⟨kind, sortable, kinds⟩ := uniform list
    refine mixed ⟨kind, sortable, fun item listed => ?_⟩
    rw [← kind_sort order]
    exact kinds _ (same ▸ List.mem_map_of_mem listed)
  rw [sort_array_of_uniform order uniformItems, Value.array.injEq] at same
  obtain ⟨originals, rfl⟩ : items ∈ Set.range (List.map build) := by
    rw [Set.range_list_map]
    intro item listed
    have inResult := (order.arrange_perm scalarLe items).mem_iff.mpr listed
    rw [same] at inResult
    obtain ⟨element, -, built⟩ := List.mem_map.mp inResult
    exact ⟨element, built⟩
  have arranged : order.arrange le originals = list := by
    apply List.map_injective_iff.mpr injective
    rw [← same]
    exact SortOrder.map_arrange fun left _ right _ => (compared left right).symm
  rw [← arranged]
  exact SortOrder.sorted_arrange trans total originals

/-- A sorted array is in order. -/
theorem inOrder_sort_array (order : SortOrder) (items : List Value) :
    InOrder order ((Value.array items).sort order) := by
  have uniform {α : Type} {build : α → Value} (kind : Kind) (sortable : kind.sortable = true)
      (kinds : ∀ element, (build element).kind = kind) (list : List α) :
      Uniform (list.map build) :=
    ⟨kind, sortable, List.forall_mem_map.mpr fun element _ => kinds element⟩
  constructor
  case keys =>
    intro members same
    have kinds := kind_sort order (.array items)
    rw [same] at kinds
    cases kinds
  case strings =>
    intro texts same
    refine (sorted_of_sort_array (uniform .string rfl fun _ => rfl)
      (fun _ _ => Value.string.inj) (fun _ _ => rfl) textLe_trans textLe_total same).imp ?_
    intro left right le
    rcases textLe_iff.mp le with rfl | less
    · exact List.le_refl _
    · exact List.le_of_lt less
  case bools =>
    intro bools same
    have compared : ∀ left right, scalarLe (.bool left) (.bool right) = (!left || right) :=
      fun _ _ => rfl
    refine (sorted_of_sort_array (uniform .bool rfl fun _ => rfl) (fun _ _ => Value.bool.inj)
      compared (by decide) (by decide) same).imp ?_
    decide
  case numbers =>
    intro numbers same
    exact (sorted_of_sort_array (uniform .number rfl fun _ => rfl)
      (fun _ _ => Value.number.inj) (fun _ _ => rfl) Number.le_trans Number.le_total same).imp
        Number.le_iff.mp

/-- The keys of a sorted object are strictly in order, if no two are equal. -/
theorem inOrder_sort_object (order : SortOrder) {members : List Member}
    (distinct : (members.map Prod.fst).Nodup) :
    InOrder order ((Value.object members).sort order) := by
  rw [sort_object]
  constructor
  case keys =>
    intro arranged same
    rw [Value.object.injEq] at same
    have keys : arranged.map Prod.fst = order.arrange textLe (members.map Prod.fst) := by
      have compared : ∀ left ∈ members.map fun member => (member.1, member.2.sort order),
          ∀ right ∈ members.map fun member => (member.1, member.2.sort order),
            textLe left.1 right.1 = textLe (Prod.fst left) (Prod.fst right) :=
        fun _ _ _ _ => rfl
      rw [← same, SortOrder.map_arrange compared, List.map_map]
      rfl
    rw [keys]
    refine (SortOrder.sorted_arrange textLe_trans textLe_total _).strict ?_ ?_
    · exact (order.arrange_perm _ _).nodup_iff.mpr distinct
    · intro left right differ le
      exact (textLe_iff.mp le).resolve_left differ
  all_goals
    intro _ same
    cases same

/-- Everything within a sorted value is in order. -/
theorem inOrder_of_within_sort {value part : Value} (keyed : value.Keyed)
    (within : part.Within (value.sort order)) : InOrder order part := by
  induction value generalizing part with
  | scalar value scalar =>
      rw [sort_of_isScalar scalar, Value.within_iff_of_isScalar scalar] at within
      rw [within]
      exact inOrder_of_isScalar scalar
  | array items ih =>
      have whole := inOrder_sort_array order items
      by_cases same : Uniform items
      · rw [sort_array_of_uniform order same] at within whole
        rcases Value.within_array_iff.mp within with rfl | ⟨item, listed, within⟩
        · exact whole
        · have scalar := same.isScalar ((order.arrange_perm scalarLe items).mem_iff.mp listed)
          rw [(Value.within_iff_of_isScalar scalar).mp within]
          exact inOrder_of_isScalar scalar
      · rw [sort_array_of_not_uniform order same] at within whole
        rcases Value.within_array_iff.mp within with rfl | ⟨sorted, listed, within⟩
        · exact whole
        · obtain ⟨item, inItems, rfl⟩ := List.mem_map.mp listed
          exact ih item inItems (Value.keyed_array_iff.mp keyed item inItems) within
  | object members ih =>
      have whole := inOrder_sort_object order (Value.keyed_object_iff.mp keyed).1
      rw [sort_object] at within whole
      rcases Value.within_object_iff.mp within with rfl | ⟨sorted, listed, within⟩
      · exact whole
      · obtain ⟨member, inMembers, rfl⟩ :=
          List.mem_map.mp ((order.arrange_perm _ _).mem_iff.mp listed)
        exact ih member inMembers ((Value.keyed_object_iff.mp keyed).2 member inMembers) within

/-- Sorting puts a value in order and only moves things about. The result has the same members and
items as the value, of which only members, and the items of uniform arrays, may have changed places.
Everything within the result is in order: the keys of every object strictly by their bytes, and
every array of strings, of booleans or of numbers. -/
theorem sort_orders_and_rearranges (order : SortOrder) (value : Value) (keyed : value.Keyed) :
    Rearranged value (value.sort order) ∧
      ∀ part, part.Within (value.sort order) → InOrder order part :=
  ⟨rearranged_sort order value, fun _ => inOrder_of_within_sort keyed⟩

/-- An object inside of an array that stays as it is, with an array of strings that does not. -/
theorem sort_orders_and_rearranges_of_nested :
    Value.Keyed (.array [.null, .object [(['b'], .array [.string ['y'], .string ['é']]),
      (['a'], .number (.integer 1))]]) ∧
    Rearranged
      (.array [.null, .object [(['b'], .array [.string ['y'], .string ['é']]),
        (['a'], .number (.integer 1))]])
      (.array [.null, .object [(['a'], .number (.integer 1)),
        (['b'], .array [.string ['y'], .string ['é']])]]) ∧
    InOrder .ascending (.object [(['a'], .number (.integer 1)),
        (['b'], .array [.string ['y'], .string ['é']])]) := by
  have keyed : Value.Keyed (.array [.null, .object [(['b'], .array [.string ['y'], .string ['é']]),
      (['a'], .number (.integer 1))]]) := by
    simp
  have sorted : (Value.array [.null, .object [(['b'], .array [.string ['y'], .string ['é']]),
      (['a'], .number (.integer 1))]]).sort .ascending =
      .array [.null, .object [(['a'], .number (.integer 1)),
        (['b'], .array [.string ['y'], .string ['é']])]] := by
    cbv
  obtain ⟨rearranged, inOrder⟩ := sort_orders_and_rearranges .ascending _ keyed
  rw [sorted] at rearranged inOrder
  exact ⟨keyed, rearranged, inOrder _ (.item (by simp) .self)⟩

end Reflow.Json
