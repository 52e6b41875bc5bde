import Mathlib.Algebra.Group.Nat.Defs
import Mathlib.Order.MinMax
import Reflow.Binary64.Basic

/-!
# The nearest floating point number of an integer

Rounding keeps the order of integers, but it does not tell all of them apart. Up to two to the power
of 53 each integer has a floating point number of its own; larger ones may share theirs with their
neighbours.
-/

namespace Reflow.Binary64

/-! ## Rounding a quotient -/

theorem div_le_roundDiv (numerator denominator : Nat) :
    numerator / denominator ≤ roundDiv numerator denominator := by
  rw [roundDiv]
  split
  · exact Nat.le_refl _
  · exact Nat.le_succ _

theorem roundDiv_le (numerator denominator : Nat) :
    roundDiv numerator denominator ≤ numerator / denominator + 1 := by
  rw [roundDiv]
  split
  · exact Nat.le_succ _
  · exact Nat.le_refl _

theorem roundDiv_one (numerator : Nat) : roundDiv numerator 1 = numerator := by
  simp [roundDiv, Nat.mod_one]

theorem roundDiv_mono (denominator : Nat) {left right : Nat} (le : left ≤ right) :
    roundDiv left denominator ≤ roundDiv right denominator := by
  rcases Nat.lt_or_eq_of_le (Nat.div_le_div_right (c := denominator) le) with less | same
  · calc roundDiv left denominator
        ≤ left / denominator + 1 := roundDiv_le left denominator
      _ ≤ right / denominator := less
      _ ≤ roundDiv right denominator := div_le_roundDiv right denominator
  · have remainder : left % denominator ≤ right % denominator := by
      have leftWhole := Nat.div_add_mod left denominator
      have rightWhole := Nat.div_add_mod right denominator
      rw [same] at leftWhole
      omega
    simp only [roundDiv, same, Bool.or_eq_true, Bool.and_eq_true, decide_eq_true_eq, beq_iff_eq]
    split <;> split <;> omega

/-! ## Rounding a natural number -/

/-- The 53 digits of a natural number, rounded. -/
def digits (number : Nat) : Nat :=
  roundDiv (number * 2 ^ (52 - number.log2)) (2 ^ (number.log2 - 52))

/-- The nearest magnitude of a natural number is told by the number of its bits and its digits. -/
theorem roundFraction_one {number : Nat} (positive : 0 < number) :
    roundFraction number 1 =
      min infiniteMagnitude ((1022 + number.log2) * 2 ^ 52 + digits number) := by
  have greatest : 2 ^ number.log2 ≤ number := Nat.log2_self_le (Nat.ne_of_gt positive)
  have power : log2Fraction number 1 = number.log2 := by
    simp [log2Fraction, twoTo, show Nat.log2 1 = 0 by decide, greatest]
  have unit : max leastExponent ((number.log2 : Int) - (fractionBits : Int)) =
      (number.log2 : Int) - 52 := by
    simp only [leastExponent, fractionBits]
    omega
  have down : ((number.log2 : Int) - 52).toNat = number.log2 - 52 := by omega
  have up : (-((number.log2 : Int) - 52)).toNat = 52 - number.log2 := by omega
  have steps : ((number.log2 : Int) - 52 - leastExponent).toNat = 1022 + number.log2 := by
    simp only [leastExponent]
    omega
  rw [roundFraction, if_neg (Nat.ne_of_gt positive), power]
  simp only [unit, down, up, steps, Nat.one_mul]
  rfl

/-- There are 53 digits, unless rounding carries over to one more. -/
theorem digits_bounds {number : Nat} (positive : 0 < number) :
    2 ^ 52 ≤ digits number ∧ digits number ≤ 2 ^ 53 := by
  have least : 2 ^ number.log2 ≤ number := Nat.log2_self_le (Nat.ne_of_gt positive)
  have most : number < 2 ^ (number.log2 + 1) := Nat.lt_log2_self
  have unit : 0 < 2 ^ (number.log2 - 52) := Nat.two_pow_pos _
  have scaled : 2 ^ 52 * 2 ^ (number.log2 - 52) = 2 ^ number.log2 * 2 ^ (52 - number.log2) := by
    rw [← Nat.pow_add, ← Nat.pow_add]
    congr 1
    omega
  have lower : 2 ^ 52 ≤ number * 2 ^ (52 - number.log2) / 2 ^ (number.log2 - 52) := by
    rw [Nat.le_div_iff_mul_le unit, scaled]
    exact Nat.mul_le_mul_right _ least
  have upper : number * 2 ^ (52 - number.log2) / 2 ^ (number.log2 - 52) < 2 ^ 53 := by
    rw [Nat.div_lt_iff_lt_mul unit]
    calc number * 2 ^ (52 - number.log2)
        < 2 ^ (number.log2 + 1) * 2 ^ (52 - number.log2) :=
          Nat.mul_lt_mul_of_pos_right most (Nat.two_pow_pos _)
      _ = 2 ^ 53 * 2 ^ (number.log2 - 52) := by
          rw [Nat.pow_succ, Nat.pow_succ, Nat.mul_right_comm, ← scaled, Nat.mul_right_comm]
  exact ⟨lower.trans (div_le_roundDiv _ _), (roundDiv_le _ _).trans upper⟩

/-- Numbers of up to 53 bits are not rounded. -/
theorem digits_eq {number : Nat} (small : number < 2 ^ 53) :
    digits number = number * 2 ^ (52 - number.log2) := by
  have few : number.log2 ≤ 52 := by
    rcases Nat.eq_zero_or_pos number with rfl | positive
    · decide
    · exact Nat.le_of_lt_succ ((Nat.log2_lt (Nat.ne_of_gt positive)).mpr small)
  rw [digits, Nat.sub_eq_zero_of_le few, Nat.pow_zero, roundDiv_one]

theorem log2_mono {left right : Nat} (positive : 0 < left) (le : left ≤ right) :
    left.log2 ≤ right.log2 := by
  rw [Nat.le_log2 (Nat.ne_of_gt (Nat.lt_of_lt_of_le positive le))]
  exact (Nat.log2_self_le (Nat.ne_of_gt positive)).trans le

theorem roundFraction_pos {number : Nat} (positive : 0 < number) : 0 < roundFraction number 1 := by
  rw [roundFraction_one positive]
  apply Nat.lt_min.mpr
  constructor
  · decide
  · have bounds := digits_bounds positive
    omega

theorem roundFraction_mono {left right : Nat} (le : left ≤ right) :
    roundFraction left 1 ≤ roundFraction right 1 := by
  rcases Nat.eq_zero_or_pos left with rfl | positive
  · exact Nat.zero_le _
  rw [roundFraction_one positive, roundFraction_one (Nat.lt_of_lt_of_le positive le)]
  apply min_le_min_left
  rcases Nat.lt_or_eq_of_le (log2_mono positive le) with less | same
  · have leftBounds := digits_bounds positive
    have rightBounds := digits_bounds (Nat.lt_of_lt_of_le positive le)
    omega
  · apply Nat.add_le_add
    · rw [same]
    · rw [digits, digits, same]
      exact roundDiv_mono _ (Nat.mul_le_mul_right _ le)

/-- A number that is not rounded has a smaller magnitude than all larger numbers. -/
theorem roundFraction_lt {left right : Nat} (small : left < 2 ^ 53) (less : left < right) :
    roundFraction left 1 < roundFraction right 1 := by
  rcases Nat.eq_zero_or_pos left with rfl | positive
  · exact roundFraction_pos less
  have rightPositive := Nat.lt_trans positive less
  have leftBounds := digits_bounds positive
  have rightBounds := digits_bounds rightPositive
  have few : left.log2 < 53 := (Nat.log2_lt (Nat.ne_of_gt positive)).mpr small
  have smaller : (1022 + left.log2) * 2 ^ 52 + digits left <
      (1022 + right.log2) * 2 ^ 52 + digits right := by
    rcases Nat.lt_or_eq_of_le (log2_mono positive (Nat.le_of_lt less)) with shorter | same
    · have exact : digits left < 2 ^ 53 := by
        rw [digits_eq small]
        calc left * 2 ^ (52 - left.log2)
            < 2 ^ (left.log2 + 1) * 2 ^ (52 - left.log2) :=
              Nat.mul_lt_mul_of_pos_right Nat.lt_log2_self (Nat.two_pow_pos _)
          _ = 2 ^ 53 := by
              rw [← Nat.pow_add]
              congr 1
              omega
      omega
    · have rightSmall : right < 2 ^ 53 := by
        rw [← Nat.log2_lt (Nat.ne_of_gt rightPositive), ← same]
        exact few
      rw [digits_eq small, digits_eq rightSmall, same]
      exact Nat.add_lt_add_left (Nat.mul_lt_mul_of_pos_right less (Nat.two_pow_pos _)) _
  have finite : (1022 + left.log2) * 2 ^ 52 + digits left < infiniteMagnitude := by
    simp only [infiniteMagnitude]
    omega
  rw [roundFraction_one positive, roundFraction_one rightPositive, Nat.min_eq_right finite.le]
  exact Nat.lt_min.mpr ⟨finite, smaller⟩

/-! ## Rounding an integer -/

theorem key_ofInt (value : Int) :
    (ofInt value).key =
      if value < 0 then -(roundFraction value.natAbs 1 : Int)
      else roundFraction value.natAbs 1 := by
  simp [ofInt, key]

theorem key_ofInt_mono {left right : Int} (le : left ≤ right) :
    (ofInt left).key ≤ (ofInt right).key := by
  rw [key_ofInt, key_ofInt]
  split <;> split
  case isTrue.isTrue =>
    have closer : right.natAbs ≤ left.natAbs := by omega
    exact Int.neg_le_neg (Int.ofNat_le.mpr (roundFraction_mono closer))
  case isTrue.isFalse => omega
  case isFalse.isTrue => omega
  case isFalse.isFalse =>
    have further : left.natAbs ≤ right.natAbs := by omega
    exact Int.ofNat_le.mpr (roundFraction_mono further)

/-- Integers whose floating point numbers are in the same place in the order share one. -/
theorem ofInt_eq_iff {left right : Int} :
    ofInt left = ofInt right ↔ (ofInt left).key = (ofInt right).key := by
  constructor
  · intro equal
    rw [equal]
  · intro equal
    rw [key_ofInt, key_ofInt] at equal
    have leftPositive := @roundFraction_pos left.natAbs
    have rightPositive := @roundFraction_pos right.natAbs
    have sign : left < 0 ↔ right < 0 := by
      split at equal <;> split at equal <;> omega
    simp only [ofInt, sign, Binary64.mk.injEq, true_and]
    split at equal <;> split at equal <;> omega

/-- Integers of up to two to the power of 53 do not share floating point numbers. -/
theorem eq_of_ofInt_eq {left right : Int} (leftSmall : left.natAbs ≤ 2 ^ 53)
    (rightSmall : right.natAbs ≤ 2 ^ 53) (equal : ofInt left = ofInt right) : left = right := by
  simp only [ofInt, Binary64.mk.injEq, decide_eq_decide] at equal
  obtain ⟨sign, magnitude⟩ := equal
  have same : left.natAbs = right.natAbs := by
    rcases Nat.lt_trichotomy left.natAbs right.natAbs with less | same | greater
    · have smaller := roundFraction_lt (Nat.lt_of_lt_of_le less rightSmall) less
      omega
    · exact same
    · have larger := roundFraction_lt (Nat.lt_of_lt_of_le greater leftSmall) greater
      omega
  omega

end Reflow.Binary64
