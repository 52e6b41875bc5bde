import Reflow.Binary64.Basic
import Mathlib.Algebra.Order.Field.Power
import Mathlib.Data.Rat.Cast.Order
import Mathlib.Order.Monotone.Basic
import Mathlib.Tactic.Linarith
import Mathlib.Tactic.Ring

/-!
# The order of floating point numbers

The bits of a magnitude, taken for a natural number, are in the order of the magnitudes: one more is
the next larger number. So the keys of numbers are in the order of their values.
-/

namespace Reflow.Binary64

/-- The value of a magnitude. -/
def magnitudeValue (magnitude : Nat) : ℚ :=
  significand magnitude * 2 ^ exponent magnitude

/-- The value of a finite number. -/
def toRat (number : Binary64) : ℚ :=
  if number.negative then -magnitudeValue number.magnitude else magnitudeValue number.magnitude

/-- How many times the smallest magnitude a magnitude is. -/
def units (magnitude : Nat) : Nat :=
  significand magnitude * 2 ^ (magnitude / twoTo fractionBits - 1)

theorem magnitudeValue_eq (magnitude : Nat) :
    magnitudeValue magnitude = units magnitude * 2 ^ leastExponent := by
  rw [magnitudeValue, units, exponent, zpow_add₀ two_ne_zero, zpow_natCast, Nat.cast_mul,
    Nat.cast_pow, Nat.cast_two]
  ring

/-- The next magnitude has the next significand, or the exponent goes up and the significand starts
anew. -/
theorem units_lt_succ (magnitude : Nat) : units magnitude < units (magnitude + 1) := by
  simp only [units, significand, show twoTo fractionBits = 2 ^ 52 from rfl]
  rcases Nat.lt_trichotomy (magnitude + 1) (2 ^ 52) with small | first | large
  · rw [if_pos small, if_pos (by omega), Nat.div_eq_of_lt small, Nat.div_eq_of_lt (by omega)]
    omega
  · rw [first, show magnitude = 2 ^ 52 - 1 by omega]
    decide
  rw [if_neg (by omega), if_neg (by omega)]
  have positive : 0 < 2 ^ (magnitude / 2 ^ 52 - 1) := Nat.two_pow_pos _
  rcases Nat.lt_or_ge (magnitude % 2 ^ 52 + 1) (2 ^ 52) with within | carry
  · rw [show (magnitude + 1) / 2 ^ 52 = magnitude / 2 ^ 52 by omega,
      show (magnitude + 1) % 2 ^ 52 = magnitude % 2 ^ 52 + 1 by omega]
    exact Nat.mul_lt_mul_of_pos_right (by omega) positive
  · rw [show (magnitude + 1) / 2 ^ 52 - 1 = magnitude / 2 ^ 52 - 1 + 1 by omega,
      show (magnitude + 1) % 2 ^ 52 = 0 by omega, Nat.add_zero]
    calc (2 ^ 52 + magnitude % 2 ^ 52) * 2 ^ (magnitude / 2 ^ 52 - 1)
        < 2 ^ 52 * 2 * 2 ^ (magnitude / 2 ^ 52 - 1) :=
          Nat.mul_lt_mul_of_pos_right (by omega) positive
      _ = 2 ^ 52 * 2 ^ (magnitude / 2 ^ 52 - 1 + 1) := by
          rw [pow_succ 2 (magnitude / 2 ^ 52 - 1), mul_assoc, mul_comm 2]

theorem magnitudeValue_strictMono : StrictMono magnitudeValue := by
  intro smaller larger less
  have unit : (0 : ℚ) < 2 ^ leastExponent := zpow_pos two_pos leastExponent
  rw [magnitudeValue_eq, magnitudeValue_eq]
  have more : (units smaller : ℚ) < units larger :=
    Nat.cast_lt.mpr (strictMono_nat_of_lt_succ units_lt_succ less)
  exact mul_lt_mul_of_pos_right more unit

theorem magnitudeValue_zero : magnitudeValue 0 = 0 := by
  simp [magnitudeValue, significand, twoTo]

theorem magnitudeValue_nonneg (magnitude : Nat) : 0 ≤ magnitudeValue magnitude := by
  rw [← magnitudeValue_zero]
  exact magnitudeValue_strictMono.monotone (Nat.zero_le magnitude)

theorem magnitudeValue_eq_zero_iff {magnitude : Nat} :
    magnitudeValue magnitude = 0 ↔ magnitude = 0 := by
  rw [← magnitudeValue_zero, magnitudeValue_strictMono.injective.eq_iff]

/-- Numbers are in the order of their keys. Both zeros have the value zero. -/
theorem key_le_key_iff {left right : Binary64} :
    left.key ≤ right.key ↔ left.toRat ≤ right.toRat := by
  obtain ⟨leftNegative, left⟩ := left
  obtain ⟨rightNegative, right⟩ := right
  have ofLeft := magnitudeValue_nonneg left
  have ofRight := magnitudeValue_nonneg right
  have order (smaller larger : Nat) :
      magnitudeValue smaller ≤ magnitudeValue larger ↔ smaller ≤ larger :=
    magnitudeValue_strictMono.le_iff_le
  cases leftNegative <;> cases rightNegative <;>
    simp only [key, toRat, if_true, if_false, Bool.false_eq_true]
  case false.false => rw [order, Int.ofNat_le]
  case true.true => rw [neg_le_neg_iff, neg_le_neg_iff, order, Int.ofNat_le]
  case true.false => exact iff_of_true (by omega) (by linarith)
  case false.true =>
    constructor
    · intro le
      rw [show left = 0 by omega, show right = 0 by omega, magnitudeValue_zero, neg_zero]
    · intro le
      have left0 : magnitudeValue left = 0 := by linarith
      have right0 : magnitudeValue right = 0 := by linarith
      rw [magnitudeValue_eq_zero_iff] at left0 right0
      omega

/-- Numbers have the same value if they have the same key. -/
theorem key_eq_key_iff {left right : Binary64} :
    left.key = right.key ↔ left.toRat = right.toRat := by
  rw [le_antisymm_iff, le_antisymm_iff, key_le_key_iff, key_le_key_iff]

end Reflow.Binary64
