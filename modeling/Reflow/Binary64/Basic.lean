/-!
# Binary floating point numbers of 64 bits

The values of IEEE 754 binary64 without the not-a-numbers. A magnitude is kept as the number that
its 63 bits spell, so that the order of magnitudes is the order of numbers. Arithmetic is exact
arithmetic on fractions, followed by one rounding to nearest, ties to even.
-/

namespace Reflow

/-- A sign and the bits of a magnitude. The largest magnitude is the infinity. -/
structure Binary64 where
  negative : Bool
  magnitude : Nat
deriving DecidableEq, Repr

namespace Binary64

/-- A power of two. -/
def twoTo (power : Nat) : Nat := Nat.pow 2 power

/-- A power of ten. -/
def tenTo (power : Nat) : Nat := Nat.pow 10 power

/-- The number of bits of the fraction. -/
def fractionBits : Nat := 52

/-- The exponent of the unit in the last place of the smallest magnitudes. -/
def leastExponent : Int := -1074

/-- The bits of the infinite magnitude. -/
def infiniteMagnitude : Nat := 0x7FF0000000000000

/-- Whether a number is infinite. -/
def isInfinite (number : Binary64) : Bool :=
  infiniteMagnitude ≤ number.magnitude

/-- Whether a number is zero, of either sign. -/
def isZero (number : Binary64) : Bool :=
  number.magnitude == 0

/-- A finite magnitude is an integer times a power of two: the integer. -/
def significand (magnitude : Nat) : Nat :=
  if magnitude < twoTo fractionBits then magnitude
  else twoTo fractionBits + magnitude % twoTo fractionBits

/-- A finite magnitude is an integer times a power of two: the exponent of the power. -/
def exponent (magnitude : Nat) : Int :=
  leastExponent + ((magnitude / twoTo fractionBits - 1 : Nat) : Int)

/-- A quotient rounded to the nearest integer, and to the even one of two that are equally near. -/
def roundDiv (numerator denominator : Nat) : Nat :=
  let quotient := numerator / denominator
  let twice := 2 * (numerator % denominator)
  if twice < denominator || (twice == denominator && quotient % 2 == 0) then quotient
  else quotient + 1

/-- The exponent of the greatest power of two that is not above a positive fraction. -/
def log2Fraction (numerator denominator : Nat) : Int :=
  let estimate := (numerator.log2 : Int) - (denominator.log2 : Int)
  if denominator * twoTo estimate.toNat ≤ numerator * twoTo (-estimate).toNat then estimate
  else estimate - 1

/-- The magnitude nearest to a fraction. -/
def roundFraction (numerator denominator : Nat) : Nat :=
  if numerator = 0 then 0
  else
    let unit := max leastExponent (log2Fraction numerator denominator - fractionBits)
    let digits := roundDiv (numerator * twoTo (-unit).toNat) (denominator * twoTo unit.toNat)
    min infiniteMagnitude ((unit - leastExponent).toNat * twoTo fractionBits + digits)

/-- The number nearest to a natural number. -/
def ofNat (value : Nat) : Binary64 :=
  { negative := false, magnitude := roundFraction value 1 }

/-- The number nearest to an integer. -/
def ofInt (value : Int) : Binary64 :=
  { negative := decide (value < 0), magnitude := roundFraction value.natAbs 1 }

/-- A finite number times ten to a natural power, the power being rounded first. -/
def powerOfTen (power : Nat) : Binary64 :=
  ofNat (tenTo power)

/-- The product of two finite numbers, rounded. -/
def mul (left right : Binary64) : Binary64 :=
  let factor := significand left.magnitude * significand right.magnitude
  let power := exponent left.magnitude + exponent right.magnitude
  { negative := left.negative != right.negative
    magnitude := roundFraction (factor * twoTo power.toNat) (twoTo (-power).toNat) }

/-- The quotient of two finite numbers, the second one not zero, rounded. -/
def div (left right : Binary64) : Binary64 :=
  let power := exponent left.magnitude - exponent right.magnitude
  { negative := left.negative != right.negative
    magnitude := roundFraction (significand left.magnitude * twoTo power.toNat)
      (significand right.magnitude * twoTo (-power).toNat) }

/-- An integer that orders numbers as their values do. Both zeros have the same key. -/
def key (number : Binary64) : Int :=
  if number.negative then -(number.magnitude : Int) else number.magnitude

end Binary64

end Reflow
