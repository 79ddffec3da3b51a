/-!
# Decimal numerals

Natural numbers written with the ten ASCII digits.  A numeral is read by value,
so leading zeros are allowed; what is written never has any.
-/

namespace TextWorld.Text

/-- The digits of a number, most significant first; zero has the
one digit `0`. -/
def decimalDigits (number : Nat) : List Char :=
  Nat.toDigits 10 number

/-- The numeral of a number. -/
def decimal (number : Nat) : String :=
  String.ofList (decimalDigits number)

/-- The numeral of an integer, with a leading `-` below zero. -/
def signedDecimal (number : Int) : String :=
  if number < 0 then
    "-" ++ decimal number.natAbs
  else
    decimal number.natAbs

/-- The value of a numeral: one or more ASCII digits and nothing else. -/
def readDecimal (numeral : List Char) : Option Nat :=
  if numeral ≠ [] ∧ numeral.all Char.isDigit then
    some (Nat.ofDigitChars 10 numeral 0)
  else
    none

/-- The value of a numeral below `bound`. -/
def readDecimalBelow (bound : Nat) (numeral : List Char) : Option Nat :=
  (readDecimal numeral).filter (· < bound)

/-- The value of a numeral below `bound`, which may be written
with a leading `+`. -/
def readUnsignedBelow (bound : Nat) : List Char → Option Nat
  | '+' :: numeral => readDecimalBelow bound numeral
  | numeral => readDecimalBelow bound numeral

@[simp]
theorem toList_decimal (number : Nat) :
    (decimal number).toList = decimalDigits number :=
  String.toList_ofList

theorem decimalDigits_ne_nil (number : Nat) :
    decimalDigits number ≠ [] :=
  Nat.toDigits_ne_nil

/-- A written number consists of ASCII digits. -/
theorem isDigit_of_mem_decimalDigits
    {number : Nat}
    {character : Char}
    (member : character ∈ decimalDigits number) :
    character.isDigit = true :=
  Nat.isDigit_of_mem_toDigits (by decide) (by decide) member

/-- Reading a written number gives the number back. -/
@[simp]
theorem readDecimal_decimalDigits (number : Nat) :
    readDecimal (decimalDigits number) = some number := by
  have digits : (decimalDigits number).all Char.isDigit = true :=
    List.all_eq_true.2 fun _ member => isDigit_of_mem_decimalDigits member
  rw [readDecimal, if_pos ⟨decimalDigits_ne_nil number, digits⟩]
  exact congrArg some (Nat.ofDigitChars_toDigits (by decide) (by decide))

end TextWorld.Text
