import Reflow.Proofs.Json.Canonical

/-!
# Ties

Elements tie if an order puts neither of them strictly before the other. Sorting keeps the order of
elements that tie, and the descending order turns it around. Strings, booleans and keys tie only if
they are equal, but numbers may differ and tie: an integer and a floating point number of the same
value, or integers that share the nearest floating point number. So sorting again in descending
order turns the ties around once more.
-/

namespace Reflow.Json

/-! ## What sorting keeps -/

namespace SortOrder

variable {α : Type} {le : α → α → Bool} {order : SortOrder} {list : List α}

/-- Whether neither of two elements is strictly before the other. -/
def ties (le : α → α → Bool) (left right : α) : Bool :=
  le left right && le right left

/-- A list as it is, or for the descending order, from its end. -/
def turned (order : SortOrder) (list : List α) : List α :=
  match order with
  | .ascending => list
  | .descending => list.reverse

theorem arrange_eq_turned (order : SortOrder) (le : α → α → Bool) (list : List α) :
    order.arrange le list = order.turned (list.mergeSort le) := by
  cases order <;> rfl

theorem turned_injective (order : SortOrder) : Function.Injective (order.turned (α := α)) := by
  intro left right equal
  cases order with
  | ascending => exact equal
  | descending => exact List.reverse_injective equal

theorem filter_turned (order : SortOrder) (choose : α → Bool) (list : List α) :
    (order.turned list).filter choose = order.turned (list.filter choose) := by
  cases order with
  | ascending => rfl
  | descending => exact List.filter_reverse

theorem mem_iff_of_filter_ties {left right : List α} {element : α}
    (self : le element element = true)
    (same : left.filter (ties le element) = right.filter (ties le element)) :
    element ∈ left ↔ element ∈ right := by
  have among (list : List α) : element ∈ list.filter (ties le element) ↔ element ∈ list := by
    simp [ties, self]
  rw [← among left, same, among right]

theorem le_of_mem_cons {first element : α} (self : le first first = true)
    (sorted : (first :: list).Pairwise (le · · = true)) (listed : element ∈ first :: list) :
    le first element = true := by
  rcases List.mem_cons.mp listed with rfl | behind
  · exact self
  · exact List.rel_of_pairwise_cons sorted behind

/-- Two lists in order are equal if, whatever element is given, the same elements of both tie with
it, in the same order. -/
theorem eq_of_filter_ties {left right : List α} (self : ∀ element, le element element = true)
    (leftSorted : left.Pairwise (le · · = true)) (rightSorted : right.Pairwise (le · · = true))
    (same : ∀ element, left.filter (ties le element) = right.filter (ties le element)) :
    left = right := by
  induction left generalizing right with
  | nil =>
      symm
      apply List.eq_nil_iff_forall_not_mem.mpr
      intro element listed
      exact List.not_mem_nil ((mem_iff_of_filter_ties (self element) (same element)).mpr listed)
  | cons first left ih =>
      cases right with
      | nil =>
          have listed := (mem_iff_of_filter_ties (self first) (same first)).mp List.mem_cons_self
          exact absurd listed List.not_mem_nil
      | cons second right =>
          have inRight := (mem_iff_of_filter_ties (self first) (same first)).mp List.mem_cons_self
          have inLeft := (mem_iff_of_filter_ties (self second) (same second)).mpr List.mem_cons_self
          have tied : ties le first second = true := by
            apply Bool.and_eq_true_iff.mpr
            constructor
            · exact le_of_mem_cons (self first) leftSorted inLeft
            · exact le_of_mem_cons (self second) rightSorted inRight
          -- The first elements tie, so each of them is the first of those that tie with it.
          have heads := same first
          rw [List.filter_cons_of_pos (by simp [ties, self]), List.filter_cons_of_pos tied] at heads
          obtain rfl : first = second := (List.cons.inj heads).1
          congr 1
          apply ih leftSorted.of_cons rightSorted.of_cons
          intro element
          have whole := same element
          rw [List.filter_cons, List.filter_cons] at whole
          split at whole
          · exact (List.cons.inj whole).2
          · exact whole

section Total

variable (trans : ∀ left middle right, le left middle = true → le middle right = true →
    le left right = true)
  (total : ∀ left right, (le left right || le right left) = true)
include trans total

/-- Elements that tie keep their order. -/
theorem filter_mergeSort (element : α) (list : List α) :
    (list.mergeSort le).filter (ties le element) = list.filter (ties le element) := by
  have tied : (list.filter (ties le element)).Pairwise (le · · = true) := by
    apply List.pairwise_of_forall_mem_list
    intro left inLeft right inRight
    have before := (Bool.and_eq_true_iff.mp (List.mem_filter.mp inLeft).2).2
    have behind := (Bool.and_eq_true_iff.mp (List.mem_filter.mp inRight).2).1
    exact trans left element right before behind
  have kept :=
    (List.sublist_mergeSort trans total tied List.filter_sublist).filter (ties le element)
  simp only [List.filter_filter, Bool.and_self] at kept
  have sameLength := ((list.mergeSort_perm le).filter (ties le element)).length_eq
  exact (kept.eq_of_length sameLength.symm).symm

/-- Elements that tie keep their order, or it is turned around for the descending order. -/
theorem filter_arrange (order : SortOrder) (element : α) (list : List α) :
    (order.arrange le list).filter (ties le element) =
      order.turned (list.filter (ties le element)) := by
  rw [arrange_eq_turned, filter_turned, filter_mergeSort trans total]

/-- Two lists are put in the same order exactly if, whatever element is given, the same elements of
both tie with it, in the same order. -/
theorem arrange_eq_arrange_iff {left right : List α} :
    order.arrange le left = order.arrange le right ↔
      ∀ element, left.filter (ties le element) = right.filter (ties le element) := by
  constructor
  · intro equal element
    apply order.turned_injective
    rw [← filter_arrange trans total, equal, filter_arrange trans total]
  · intro same
    rw [arrange_eq_turned, arrange_eq_turned]
    congr 1
    apply eq_of_filter_ties
    · intro element
      simpa using total element element
    · exact List.pairwise_mergeSort trans total left
    · exact List.pairwise_mergeSort trans total right
    · intro element
      rw [filter_mergeSort trans total, filter_mergeSort trans total, same]

/-- Putting a list in order some number of times and another number of times comes to the same
exactly if turning the elements that tie around that often does. -/
theorem iterate_arrange_eq_iff (first second : Nat) :
    (order.arrange le)^[first + 1] list = (order.arrange le)^[second + 1] list ↔
      ∀ element, order.turned^[first] (list.filter (ties le element)) =
        order.turned^[second] (list.filter (ties le element)) := by
  have turnedBy (element : α) (count : Nat) :
      ((order.arrange le)^[count] list).filter (ties le element) =
        order.turned^[count] (list.filter (ties le element)) := by
    have once : Function.Semiconj (List.filter (ties le element)) (order.arrange le)
        order.turned :=
      fun list => filter_arrange trans total order element list
    exact once.iterate_right count list
  rw [Function.iterate_succ_apply', Function.iterate_succ_apply',
    arrange_eq_arrange_iff trans total]
  simp only [turnedBy]

/-- In a sorted list all elements are related to those behind them exactly if in the original list
elements that tie are related to those behind them, for a relation that holds between elements that
do not tie. -/
theorem sorted_arrange_iff {related : α → α → Prop}
    (apart : ∀ left right, le left right = true → ties le left right = false → related left right) :
    order.Sorted related (order.arrange le list) ↔
      list.Pairwise fun left right => ties le left right = true → related left right := by
  have ascending : (list.mergeSort le).Pairwise related ↔
      list.Pairwise fun left right => ties le left right = true → related left right := by
    rw [List.pairwise_iff_forall_sublist, List.pairwise_iff_forall_sublist]
    constructor
    · intro sorted left right inList tied
      have inOrder := (Bool.and_eq_true_iff.mp tied).1
      exact sorted (List.pair_sublist_mergeSort trans total inOrder inList)
    · intro kept left right inSorted
      have inOrder : le left right = true :=
        List.pairwise_iff_forall_sublist.mp (List.pairwise_mergeSort trans total list) inSorted
      cases tied : ties le left right with
      | false => exact apart left right inOrder tied
      | true =>
          have self : ties le left left = true := by simpa [ties] using total left left
          have pair := inSorted.filter (ties le left)
          rw [List.filter_cons_of_pos self, List.filter_cons_of_pos tied, List.filter_nil,
            filter_mergeSort trans total] at pair
          exact kept (pair.trans List.filter_sublist) tied
  rw [arrange_eq_turned, ← ascending]
  cases order with
  | ascending => rfl
  | descending => exact List.pairwise_reverse

end Total

end SortOrder

/-! ## Sorting again and again -/

variable {order : SortOrder}

theorem iterate_arrange_of_apart {α : Type} {le : α → α → Bool}
    (trans : ∀ left middle right, le left middle = true → le middle right = true →
      le left right = true)
    (total : ∀ left right, (le left right || le right left) = true)
    (apart : ∀ left right, le left right = true → le right left = true → left = right)
    (count : Nat) (list : List α) :
    (order.arrange le)^[count + 1] list = order.arrange le list := by
  induction count with
  | zero => rfl
  | succ count ih =>
      rw [Function.iterate_succ_apply', ih]
      apply SortOrder.arrange_eq_of_perm trans total
      · intro left _ right _
        exact apart left right
      · exact order.arrange_perm le list

theorem iterate_arrange_map {α : Type} {build : α → Value} {le : α → α → Bool}
    (compared : ∀ left right, scalarLe (build left) (build right) = le left right)
    (count : Nat) (list : List α) :
    (order.arrange scalarLe)^[count] (list.map build) =
      ((order.arrange le)^[count] list).map build := by
  have once : Function.Semiconj (List.map build) (order.arrange le) (order.arrange scalarLe) := by
    intro list
    exact SortOrder.map_arrange fun left _ right _ => (compared left right).symm
  exact ((once.iterate_right count) list).symm

theorem iterate_sort_of_isScalar {value : Value} (scalar : value.isScalar = true) (count : Nat) :
    (Value.sort order)^[count] value = value :=
  Function.iterate_fixed (sort_of_isScalar scalar) count

theorem iterate_sort_array_of_uniform {items : List Value} (uniform : Uniform items)
    (count : Nat) :
    (Value.sort order)^[count] (.array items) =
      .array ((order.arrange scalarLe)^[count] items) := by
  induction count generalizing items with
  | zero => rfl
  | succ count ih =>
      rw [Function.iterate_succ_apply, sort_array_of_uniform order uniform,
        ih (uniform.of_perm (order.arrange_perm scalarLe items).symm), Function.iterate_succ_apply]

theorem iterate_sort_array_of_not_uniform {items : List Value} (mixed : ¬Uniform items)
    (count : Nat) :
    (Value.sort order)^[count] (.array items) =
      .array (items.map (Value.sort order)^[count]) := by
  induction count generalizing items with
  | zero => simp
  | succ count ih =>
      have stillMixed : ¬Uniform (items.map (Value.sort order)) := by
        intro uniform
        apply mixed
        refine uniform.of_rearranged (List.forall₂_map_right_iff.mpr (List.forall₂_same.mpr ?_))
        intro item _
        exact rearranged_sort order item
      rw [Function.iterate_succ_apply, sort_array_of_not_uniform order mixed, ih stillMixed,
        List.map_map]
      rfl

/-- The order of members. -/
abbrev memberLe (left right : Member) : Bool :=
  textLe left.1 right.1

theorem iterate_sort_object {members : List Member} (distinct : (members.map Prod.fst).Nodup)
    (count : Nat) :
    (Value.sort order)^[count + 1] (.object members) =
      .object (order.arrange memberLe
        (members.map fun member => (member.1, (Value.sort order)^[count + 1] member.2))) := by
  induction count with
  | zero => exact sort_object order members
  | succ count ih =>
      have compared (left right : Member) : memberLe left right =
          memberLe (left.1, left.2.sort order) (right.1, right.2.sort order) := rfl
      rw [Function.iterate_succ_apply', ih, sort_object,
        SortOrder.map_arrange fun left _ right _ => compared left right, List.map_map]
      congr 1
      apply arrange_members_eq_of_perm
      · refine (order.arrange_perm memberLe _).map _ |>.nodup_iff.mpr ?_
        rw [List.map_map]
        exact distinct
      · simpa only [Function.comp_def, ← Function.iterate_succ_apply'] using
          order.arrange_perm memberLe _

theorem arrange_members_eq_iff {members : List Member} (distinct : (members.map Prod.fst).Nodup)
    {first second : Value → Value} :
    order.arrange memberLe (members.map fun member => (member.1, first member.2)) =
        order.arrange memberLe (members.map fun member => (member.1, second member.2)) ↔
      ∀ member ∈ members, first member.2 = second member.2 := by
  constructor
  · intro equal member listed
    have inFirst : (member.1, first member.2) ∈
        order.arrange memberLe (members.map fun member => (member.1, first member.2)) :=
      (order.arrange_perm memberLe _).mem_iff.mpr (List.mem_map_of_mem listed)
    rw [equal, (order.arrange_perm memberLe _).mem_iff, List.mem_map] at inFirst
    obtain ⟨other, otherListed, same⟩ := inFirst
    obtain ⟨sameKey, sameValue⟩ := Prod.mk.inj same
    obtain rfl := List.inj_on_of_nodup_map distinct otherListed listed sameKey
    exact sameValue.symm
  · intro same
    congr 1
    apply List.map_congr_left
    intro member listed
    rw [same member listed]

/-- Only numbers differ and tie, so putting uniform items in order some number of times and another
number of times comes to the same exactly if it does so for numbers. -/
theorem iterate_arrange_uniform_eq_iff {items : List Value} (uniform : Uniform items)
    (first second : Nat) :
    (order.arrange scalarLe)^[first + 1] items = (order.arrange scalarLe)^[second + 1] items ↔
      ∀ numbers : List Number, numbers.map .number = items →
        (order.arrange Number.le)^[first + 1] numbers =
          (order.arrange Number.le)^[second + 1] numbers := by
  have compared (left right : Number) :
      scalarLe (.number left) (.number right) = left.le right := rfl
  constructor
  · rintro equal numbers rfl
    rw [iterate_arrange_map compared, iterate_arrange_map compared] at equal
    exact List.map_injective_iff.mpr (fun _ _ => Value.number.inj) equal
  · intro each
    rcases uniform.exists_map_eq with ⟨texts, rfl⟩ | ⟨bools, rfl⟩ | ⟨numbers, rfl⟩
    · have compared (left right : Text) :
          scalarLe (.string left) (.string right) = textLe left right := rfl
      have told (count : Nat) : (order.arrange textLe)^[count + 1] texts =
          order.arrange textLe texts :=
        iterate_arrange_of_apart textLe_trans textLe_total (fun _ _ => textLe_antisymm) count texts
      rw [iterate_arrange_map compared, iterate_arrange_map compared, told, told]
    · have compared (left right : Bool) :
          scalarLe (.bool left) (.bool right) = (!left || right) := rfl
      have told (count : Nat) :
          (order.arrange fun left right => !left || right)^[count + 1] bools =
            order.arrange (fun left right => !left || right) bools :=
        iterate_arrange_of_apart (by decide) (by decide) (by decide) count bools
      rw [iterate_arrange_map compared, iterate_arrange_map compared, told, told]
    · rw [iterate_arrange_map compared, iterate_arrange_map compared, each numbers rfl]

/-- Sorting a value some number of times and another number of times comes to the same exactly if it
does so for each array of numbers. -/
theorem iterate_sort_eq_iff {value : Value} (keyed : value.Keyed) (first second : Nat) :
    (Value.sort order)^[first + 1] value = (Value.sort order)^[second + 1] value ↔
      ∀ numbers : List Number, (Value.array (numbers.map .number)).Within value →
        (order.arrange Number.le)^[first + 1] numbers =
          (order.arrange Number.le)^[second + 1] numbers := by
  induction value with
  | scalar value scalar =>
      rw [iterate_sort_of_isScalar scalar, iterate_sort_of_isScalar scalar]
      apply iff_of_true rfl
      intro numbers within
      exact absurd within (Value.not_within_of_isScalar rfl scalar)
  | array items ih =>
      rw [Value.keyed_array_iff] at keyed
      by_cases uniform : Uniform items
      · rw [iterate_sort_array_of_uniform uniform, iterate_sort_array_of_uniform uniform,
          Value.array.injEq, iterate_arrange_uniform_eq_iff uniform]
        constructor
        · intro each numbers within
          rcases Value.within_array_iff.mp within with same | ⟨item, listed, within⟩
          · exact each numbers (Value.array.inj same)
          · exact absurd within (Value.not_within_of_isScalar rfl (uniform.isScalar listed))
        · rintro each numbers rfl
          exact each numbers .self
      · rw [iterate_sort_array_of_not_uniform uniform, iterate_sort_array_of_not_uniform uniform,
          Value.array.injEq, List.map_inj_left]
        constructor
        · intro same numbers within
          rcases Value.within_array_iff.mp within with whole | ⟨item, listed, within⟩
          · apply absurd _ uniform
            rw [← Value.array.inj whole]
            exact ⟨.number, rfl, List.forall_mem_map.mpr fun _ _ => rfl⟩
          · exact (ih item listed (keyed item listed)).mp (same item listed) numbers within
        · intro each item listed
          apply (ih item listed (keyed item listed)).mpr
          intro numbers within
          exact each numbers (.item listed within)
  | object members ih =>
      obtain ⟨distinct, keyed⟩ := Value.keyed_object_iff.mp keyed
      rw [iterate_sort_object distinct, iterate_sort_object distinct, Value.object.injEq,
        arrange_members_eq_iff distinct]
      constructor
      · intro same numbers within
        rcases Value.within_object_iff.mp within with whole | ⟨member, listed, within⟩
        · cases whole
        · exact (ih member listed (keyed member listed)).mp (same member listed) numbers within
      · intro each member listed
        apply (ih member listed (keyed member listed)).mpr
        intro numbers within
        exact each numbers (.member listed within)

/-! ## Sorting twice -/

/-- The numbers of a list that have, as floating point numbers, the same value as a number. -/
def Number.tied (number : Number) (numbers : List Number) : List Number :=
  numbers.filter fun other => other.toBinary64.toRat = number.toBinary64.toRat

/-- In every array of numbers, those that have the same value read the same from both ends. -/
def Value.TiesMirrored (value : Value) : Prop :=
  ∀ numbers : List Number, (Value.array (numbers.map .number)).Within value →
    ∀ number : Number, (number.tied numbers).reverse = number.tied numbers

theorem Number.tied_eq (number : Number) (numbers : List Number) :
    number.tied numbers = numbers.filter (SortOrder.ties Number.le number) := by
  apply List.filter_congr
  intro other _
  rw [Bool.eq_iff_iff, SortOrder.ties, Bool.and_eq_true_iff, Number.le_iff, Number.le_iff,
    decide_eq_true_iff, ← le_antisymm_iff, eq_comm]

/-- Each further time that a value is sorted turns the numbers that have the same value around. -/
theorem iterate_sort_eq_iff_tied {value : Value} (keyed : value.Keyed) (first second : Nat) :
    (Value.sort order)^[first + 1] value = (Value.sort order)^[second + 1] value ↔
      ∀ numbers : List Number, (Value.array (numbers.map .number)).Within value →
        ∀ number : Number, order.turned^[first] (number.tied numbers) =
          order.turned^[second] (number.tied numbers) := by
  simp only [iterate_sort_eq_iff keyed, Number.tied_eq,
    SortOrder.iterate_arrange_eq_iff Number.le_trans Number.le_total]

/-- Sorting twice is sorting once in ascending order. In descending order the second time turns
around the numbers that have the same value, so it changes nothing exactly if these read the same
from both ends; a third time always gives what the first one gave. -/
theorem sort_sort (value : Value) (keyed : value.Keyed) :
    (value.sort .ascending).sort .ascending = value.sort .ascending ∧
      ((value.sort .descending).sort .descending = value.sort .descending ↔
        value.TiesMirrored) ∧
      ((value.sort .descending).sort .descending).sort .descending = value.sort .descending := by
  refine ⟨?_, iterate_sort_eq_iff_tied keyed 1 0, ?_⟩
  · apply (iterate_sort_eq_iff_tied keyed 1 0).mpr
    intro numbers _ number
    rfl
  · apply (iterate_sort_eq_iff_tied keyed 2 0).mpr
    intro numbers _ number
    exact List.reverse_reverse _

/-- Between two integers one there is the floating point number one. -/
theorem sort_sort_of_palindrome :
    let one : Number := .double { negative := false, magnitude := 0x3FF0000000000000 }
    let value : Value := .object [(['a'], .array [.number (.integer 1), .number one,
      .number (.integer 1)])]
    value.Keyed ∧ value.TiesMirrored ∧
      (value.sort .ascending).sort .ascending = value.sort .ascending ∧
      (value.sort .descending).sort .descending = value.sort .descending := by
  intro one value
  have keyed : value.Keyed := by simp [value]
  have mirrored : value.TiesMirrored := by
    intro numbers within number
    have same : numbers.map Value.number = [.integer 1, one, .integer 1].map Value.number := by
      simpa [value] using within
    rw [List.map_injective_iff.mpr (fun _ _ => Value.number.inj) same, Number.tied,
      ← List.filter_reverse]
    rfl
  obtain ⟨ascending, descending, -⟩ := sort_sort value keyed
  exact ⟨keyed, mirrored, ascending, descending.mpr mirrored⟩

/-- Sorting in descending order twice is not sorting once: the integer one and the floating point
number one have the same value, and every time they change places. -/
theorem sort_descending_sort_descending_ne :
    let one : Number := .double { negative := false, magnitude := 0x3FF0000000000000 }
    let value : Value := .array [.number (.integer 1), .number one]
    (value.sort .descending).sort .descending ≠ value.sort .descending := by
  intro one value
  have keyed : value.Keyed := by simp [value]
  intro again
  have turned : (one.tied [.integer 1, one]).reverse = one.tied [.integer 1, one] :=
    (iterate_sort_eq_iff_tied keyed 1 0).mp again [.integer 1, one] .self one
  have same : (Number.integer 1).toBinary64.toRat = one.toBinary64.toRat := by
    rw [← Binary64.key_eq_key_iff]
    decide
  simp [Number.tied, same] at turned

end Reflow.Json
