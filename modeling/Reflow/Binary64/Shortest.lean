import Reflow.Binary64.Basic
import Reflow.Text.Basic

/-!
# Shortest decimal digits

A number is written with the fewest decimal digits that read back as the same number. Of several
such decimals the one nearest to the number is taken. What reads back is decided exactly: the
decimals between the midpoints to the two neighbouring numbers, and the midpoints themselves if the
last bit of the number is zero.
-/

namespace Reflow.Binary64

/-- A positive decimal number: digits times a power of ten. -/
structure Decimal where
  digits : Nat
  power : Int
deriving DecidableEq, Repr

/-- Compare a decimal with an integer times a power of two. -/
def Decimal.compareTo (decimal : Decimal) (factor : Nat) (power : Int) : Ordering :=
  compare (decimal.digits * tenTo decimal.power.toNat * twoTo (-power).toNat)
    (factor * twoTo power.toNat * tenTo (-decimal.power).toNat)

/-- Whether a decimal reads back as a positive finite magnitude. -/
def readsBack (magnitude : Nat) (decimal : Decimal) : Bool :=
  let factor := 4 * significand magnitude
  let power := exponent magnitude - 2
  let narrow := magnitude % twoTo fractionBits == 0 && twoTo fractionBits < magnitude
  let low := decimal.compareTo (if narrow then factor - 1 else factor - 2) power
  let high := decimal.compareTo (factor + 2) power
  let closed := magnitude % 2 == 0
  (low == .gt || (closed && low == .eq)) && (high == .lt || (closed && high == .eq))

/-- The quotient, rounded down, of a magnitude by a power of ten, and whether the remainder is less
than half of the power, equal to the half, or greater. -/
def divPower (magnitude : Nat) (power : Int) : Nat × Ordering :=
  let base := exponent magnitude
  let numerator := significand magnitude * twoTo base.toNat * tenTo (-power).toNat
  let denominator := twoTo (-base).toNat * tenTo power.toNat
  (numerator / denominator, compare (2 * (numerator % denominator)) denominator)

/-- The power of ten of the first digit of a positive magnitude, searched upwards from `power`. -/
def leadingPower (magnitude : Nat) : (fuel : Nat) → (power : Int) → Int
  | 0, power => power
  | fuel + 1, power =>
      if (divPower magnitude (power + 1)).1 = 0 then power
      else leadingPower magnitude fuel (power + 1)

/-- The nearest decimal with the last digit at a power of ten that reads back, if there is one. -/
def decimalAt? (magnitude : Nat) (power : Int) : Option Decimal :=
  let (digits, remainder) := divPower magnitude power
  let below : Decimal := { digits, power }
  let above : Decimal := { digits := digits + 1, power }
  let belowFirst := remainder == .lt || (remainder == .eq && digits % 2 == 0)
  let (near, far) := if belowFirst then (below, above) else (above, below)
  if readsBack magnitude near then some near
  else if readsBack magnitude far then some far
  else none

/-- The first decimal that reads back when ever more digits are taken. -/
def searchDecimal (magnitude : Nat) : (fuel : Nat) → (power : Int) → Decimal
  | 0, power => { digits := (divPower magnitude power).1, power }
  | fuel + 1, power =>
      match decimalAt? magnitude power with
      | some decimal => decimal
      | none => searchDecimal magnitude fuel (power - 1)

/-- The shortest decimal for a positive finite magnitude. Seventeen digits are always enough. -/
def shortest (magnitude : Nat) : Decimal :=
  searchDecimal magnitude 17 (leadingPower magnitude 640 (-330))

/-- How decimals are written: which powers of the first digit are written without an exponent. -/
structure DecimalStyle where
  leastPlain : Int
  mostPlain : Int

/-- Write digits, the first of which stands at a power of ten. A number without exponent always has
a point and a digit behind it. -/
def DecimalStyle.write (style : DecimalStyle) (digits : Text) (power : Int) : Text :=
  if style.leastPlain ≤ power ∧ power ≤ style.mostPlain then
    if power < 0 then
      ['0', '.'] ++ List.replicate (-power - 1).toNat '0' ++ digits
    else
      let whole := power.toNat + 1
      let fraction := digits.drop whole
      digits.take whole ++ List.replicate (whole - digits.length) '0' ++ ['.'] ++
        (if fraction.isEmpty then ['0'] else fraction)
  else
    let fraction := digits.drop 1
    digits.take 1 ++ (if fraction.isEmpty then [] else '.' :: fraction) ++ ['e'] ++
      (if power < 0 then ['-'] else ['+']) ++ Nat.toDigits 10 power.natAbs

/-- Write a finite number with its shortest digits. -/
def write (style : DecimalStyle) (number : Binary64) : Text :=
  (if number.negative then ['-'] else []) ++
    if number.isZero then ['0', '.', '0']
    else
      let decimal := shortest number.magnitude
      let digits := Nat.toDigits 10 decimal.digits
      let significant := (digits.reverse.dropWhile (· == '0')).reverse
      style.write significant (decimal.power + (digits.length - 1 : Nat))

end Reflow.Binary64
