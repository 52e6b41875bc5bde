/-!
# Digits

The values of ASCII digits, decimal and hexadecimal.
-/

namespace Reflow.Text

/-- The value of a decimal digit. -/
def digitValue (char : Char) : Nat :=
  char.toNat - '0'.toNat

/-- The value of a hexadecimal digit; the letters may have either case. -/
def hexDigit? (char : Char) : Option Nat :=
  if char.isDigit then some (digitValue char)
  else if 'a' ≤ char ∧ char ≤ 'f' then some (char.toNat - 'a'.toNat + 10)
  else if 'A' ≤ char ∧ char ≤ 'F' then some (char.toNat - 'A'.toNat + 10)
  else none

/-- The number that a text of decimal digits denotes; without digits it is zero. -/
def decimalValue (digits : List Char) : Nat :=
  Nat.ofDigitChars 10 digits 0

/-- Reading undoes writing. -/
theorem decimalValue_toDigits (number : Nat) :
    decimalValue (Nat.toDigits 10 number) = number :=
  Nat.ofDigitChars_toDigits (by decide) (by decide)

end Reflow.Text
