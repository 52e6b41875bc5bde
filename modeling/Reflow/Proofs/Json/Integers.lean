import Reflow.Proofs.Binary64.Rounding
import Reflow.Proofs.Json.Ties

/-!
# Arrays of integers in order

Integers are put in the order of their nearest floating point numbers. Large integers may share one,
and then they stay as they were. So the result is in the order of the integers themselves exactly if
integers that share a floating point number were in this order from the start.
-/

namespace Reflow.Json

/-- An integer as a value. -/
def Value.ofInt (integer : Int) : Value :=
  .number (.integer integer)

/-- Whether the floating point number nearest to an integer is at most that of another. -/
def roundedLe (left right : Int) : Bool :=
  (Number.integer left).le (.integer right)

theorem roundedLe_iff {left right : Int} :
    roundedLe left right = true ↔ (Binary64.ofInt left).key ≤ (Binary64.ofInt right).key :=
  decide_eq_true_iff

theorem roundedLe_trans (left middle right : Int) (first : roundedLe left middle = true)
    (second : roundedLe middle right = true) : roundedLe left right = true :=
  Number.le_trans _ _ _ first second

theorem roundedLe_total (left right : Int) :
    (roundedLe left right || roundedLe right left) = true :=
  Number.le_total _ _

theorem ties_roundedLe_iff {left right : Int} :
    SortOrder.ties roundedLe left right = true ↔ Binary64.ofInt left = Binary64.ofInt right := by
  rw [SortOrder.ties, Bool.and_eq_true_iff, roundedLe_iff, roundedLe_iff, ← le_antisymm_iff,
    Binary64.ofInt_eq_iff]

/-- Integers in the order of their floating point numbers are in order or share one. -/
theorem le_or_ofInt_eq {left right : Int} (inOrder : roundedLe left right = true) :
    left ≤ right ∨ Binary64.ofInt left = Binary64.ofInt right := by
  rcases le_or_gt left right with le | greater
  · exact .inl le
  · right
    apply Binary64.ofInt_eq_iff.mpr
    exact le_antisymm (roundedLe_iff.mp inOrder) (Binary64.key_ofInt_mono (Int.le_of_lt greater))

/-- An array of integers is sorted as the list of the integers. -/
theorem sort_array_ofInt (order : SortOrder) (integers : List Int) :
    (Value.array (integers.map .ofInt)).sort order =
      .array ((order.arrange roundedLe integers).map .ofInt) := by
  have uniform : Uniform (integers.map Value.ofInt) :=
    ⟨.number, rfl, List.forall_mem_map.mpr fun _ _ => rfl⟩
  have compared : ∀ left ∈ integers, ∀ right ∈ integers,
      roundedLe left right = scalarLe (.ofInt left) (.ofInt right) :=
    fun _ _ _ _ => rfl
  rw [sort_array_of_uniform order uniform, SortOrder.map_arrange compared]

/-- How arrays of integers are sorted. The result has the integers of the array, in the order of the
integers or of the other direction, except that integers which share their nearest floating point
number may be the wrong way round. There are none of these exactly if in the array no integer comes
before a smaller one with which it shares that number, and so there are none among integers of up to
two to the power of 53. -/
theorem sort_integers (order : SortOrder) (integers : List Int) :
    ∃ sorted : List Int,
      (Value.array (integers.map .ofInt)).sort order = .array (sorted.map .ofInt) ∧
      sorted.Perm integers ∧
      order.Sorted (fun left right =>
        left ≤ right ∨ Binary64.ofInt left = Binary64.ofInt right) sorted ∧
      (order.Sorted (· ≤ ·) sorted ↔ integers.Pairwise fun left right =>
        Binary64.ofInt left = Binary64.ofInt right → left ≤ right) ∧
      ((∀ integer ∈ integers, integer.natAbs ≤ 2 ^ 53) → order.Sorted (· ≤ ·) sorted) := by
  have rounded : order.Sorted (roundedLe · · = true) (order.arrange roundedLe integers) :=
    SortOrder.sorted_arrange roundedLe_trans roundedLe_total integers
  have exact : order.Sorted (· ≤ ·) (order.arrange roundedLe integers) ↔
      integers.Pairwise fun left right =>
        Binary64.ofInt left = Binary64.ofInt right → left ≤ right := by
    simp only [← ties_roundedLe_iff]
    apply SortOrder.sorted_arrange_iff roundedLe_trans roundedLe_total
    intro left right inOrder apart
    apply (le_or_ofInt_eq inOrder).resolve_right
    rw [← ties_roundedLe_iff, apart]
    exact Bool.false_ne_true
  refine ⟨order.arrange roundedLe integers, sort_array_ofInt order integers,
    order.arrange_perm roundedLe integers, rounded.imp le_or_ofInt_eq, exact, ?_⟩
  intro small
  apply exact.mpr
  apply List.pairwise_of_forall_mem_list
  intro left inLeft right inRight shared
  exact Int.le_of_eq (Binary64.eq_of_ofInt_eq (small left inLeft) (small right inRight) shared)

/-- Two to the power of 53 and its successor share their nearest floating point number. Where the
successor comes first, it does so still when the array has been sorted in ascending order. -/
theorem sort_integers_of_neighbours :
    ∃ sorted : List Int,
      (Value.array ([2 ^ 53 + 1, 2 ^ 53].map .ofInt)).sort .ascending =
        .array (sorted.map .ofInt) ∧
      ¬sorted.Pairwise (· ≤ ·) := by
  obtain ⟨sorted, same, -, -, exact, -⟩ := sort_integers .ascending [2 ^ 53 + 1, 2 ^ 53]
  refine ⟨sorted, same, ?_⟩
  intro inOrder
  have kept := List.pairwise_pair.mp (exact.mp inOrder)
  exact absurd (kept (by decide)) (by decide)

end Reflow.Json
