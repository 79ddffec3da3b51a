/-!
# Hexadecimal numerals
-/

namespace TextWorld.Text

/-- The digits of a number in base sixteen, lower case, without
leading zeros. -/
def hexDigits (number : Nat) : List Char :=
  Nat.toDigits 16 number

/-- Exactly four lower-case digits of a number below `16 ^ 4`. -/
def fourHexDigits (number : Nat) : List Char :=
  [Nat.digitChar (number / 4096 % 16), Nat.digitChar (number / 256 % 16),
    Nat.digitChar (number / 16 % 16), Nat.digitChar (number % 16)]

/-- The value of a digit of either case. -/
def hexValue (digit : Char) : Option Nat :=
  if digit.isDigit then
    some (digit.toNat - '0'.toNat)
  else if 'a' ≤ digit ∧ digit ≤ 'f' then
    some (digit.toNat - 'a'.toNat + 10)
  else if 'A' ≤ digit ∧ digit ≤ 'F' then
    some (digit.toNat - 'A'.toNat + 10)
  else
    none

/-- The number written by four digits. -/
def fourHexValue (first second third fourth : Char) : Option Nat := do
  let thousands ← hexValue first
  let hundreds ← hexValue second
  let tens ← hexValue third
  let ones ← hexValue fourth
  return ((thousands * 16 + hundreds) * 16 + tens) * 16 + ones

end TextWorld.Text
