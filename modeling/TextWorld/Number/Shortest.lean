import TextWorld.Number.Binary64
import TextWorld.Text.Decimal

/-!
# The shortest decimal of a floating-point number

Among the decimals that are read back as the given number, the one with the
fewest digits is chosen, and of several of that length the nearest; which of two
equally near ones is up to the notation.  The search goes through one, two, …
seventeen digits and looks, on the grid of that many digits, only at the two
neighbours of the number itself.

The digits are then laid out in one of two notations: fully positional, or
positional for middling sizes and with an exponent for the others.
-/

namespace TextWorld.Number

open TextWorld.Text

/-- The number `coefficient * 10 ^ exponent`. -/
structure Decimal where
  coefficient : Nat
  exponent : Int
deriving DecidableEq

/-- Which of two equally near decimals is chosen. -/
inductive Tie where
  /-- The one that is further from zero. -/
  | up
  /-- The one whose last digit is even. -/
  | even
deriving DecidableEq

/-- Whether a tie above the given last digits goes to the lower decimal. -/
def Tie.choosesBelow (tie : Tie) (below : Nat) : Bool :=
  match tie with
  | .up => false
  | .even => below % 2 = 0

/-- Moves up to `limit` trailing zeros of the coefficient into the exponent. -/
def Decimal.withoutTrailingZeros (number : Decimal) : (limit : Nat) → Decimal
  | 0 => number
  | limit + 1 =>
      if number.coefficient % 10 = 0 ∧ number.coefficient ≠ 0 then
        Decimal.withoutTrailingZeros ⟨number.coefficient / 10,
          number.exponent + 1⟩ limit
      else
        number

/-- The largest `e` for which `10 ^ e` is at most a positive quotient that is no
power of ten below one. -/
def decimalMagnitude (numerator denominator : Nat) : Int :=
  if denominator ≤ numerator then
    (decimalDigits (numerator / denominator)).length - 1
  else
    -(decimalDigits (denominator / numerator)).length

namespace Binary64

/-- Whether the number is the smallest of its exponent, so that its lower
neighbour is nearer. -/
def isLowestOfExponent (number : Binary64) : Bool :=
  number.fractionField = 0 ∧ 1 < number.exponentField

/--
Whether a quotient is read back as the given positive finite number: it lies
between the two midpoints to the neighbours, and may be one of them when the
significand is even.
-/
def readsBack (number : Binary64) (numerator denominator : Nat) : Bool :=
  let scale (quarters : Nat) : Nat :=
    quarters * twoTo number.binaryExponent.toNat * denominator
  let lower :=
    4 * number.significand - (if number.isLowestOfExponent then 1 else 2)
  let upper := 4 * number.significand + 2
  let value := 4 * numerator * number.denominator
  if number.significand % 2 = 0 then
    scale lower ≤ value ∧ value ≤ scale upper
  else
    scale lower < value ∧ value < scale upper

/-- The decimal of at most `digits` digits nearest to a positive finite number,
if it is read back as that number. -/
def decimalOfDigits (tie : Tie) (number : Binary64) (digits : Nat) :
    Option Decimal :=
  let exponent :=
    decimalMagnitude number.numerator number.denominator - (digits : Int) + 1
  let up := tenTo exponent.toNat
  let down := tenTo (-exponent).toNat
  let numerator := number.numerator * down
  let denominator := number.denominator * up
  let below := numerator / denominator
  let belowFits := number.readsBack (below * up) down
  let aboveFits := number.readsBack ((below + 1) * up) down
  let rest := 2 * (numerator % denominator)
  let belowIsChosen :=
    rest < denominator || (rest = denominator && tie.choosesBelow below)
  if belowFits && (belowIsChosen || !aboveFits) then
    some ⟨below, exponent⟩
  else if aboveFits then
    some ⟨below + 1, exponent⟩
  else
    none

/-- The shortest decimal that is read back as the given positive
finite number. -/
def shortestDecimal (tie : Tie) (number : Binary64) : Decimal :=
  match (List.range 17).findSome? fun shorter =>
    number.decimalOfDigits tie (shorter + 1) with
  | some found => found.withoutTrailingZeros 17
  | none => ⟨0, 0⟩

end Binary64

/-- The digits of a decimal with the point where it belongs and no exponent. -/
def Decimal.positional (number : Decimal) : String :=
  let digits := decimalDigits number.coefficient
  if 0 ≤ number.exponent then
    String.ofList (digits ++ List.replicate number.exponent.toNat '0')
  else
    let places := (-number.exponent).toNat
    if places < digits.length then
      String.ofList
        (digits.take (digits.length - places) ++ '.' ::
          digits.drop (digits.length - places))
    else
      String.ofList
        ('0' :: '.' :: List.replicate (places - digits.length) '0' ++ digits)

/-- One digit, the point and the other digits, if there are any, then `e` and
the exponent, which always has a sign. -/
def Decimal.scientific (number : Decimal) : String :=
  let digits := decimalDigits number.coefficient
  let exponent := number.exponent + digits.length - 1
  let mantissa :=
    match digits with
    | first :: second :: rest => first :: '.' :: second :: rest
    | few => few
  String.ofList mantissa ++ (if exponent < 0 then "e" else "e+") ++
    signedDecimal exponent

namespace Binary64

/--
The text of a number: the shortest digits in positional notation, a tie going
up, without a point when the number is whole; and `NaN`, `inf` and `-inf` for
what is not finite.
-/
def text (number : Binary64) : String :=
  if number.isNaN then
    "NaN"
  else
    let size :=
      if number.isInfinite then
        "inf"
      else if number.isZero then
        "0"
      else
        (number.shortestDecimal .up).positional
    if number.isNegative then "-" ++ size else size

/--
The text of a finite number in which a whole number ends in `.0`, and sizes
below `1e-5` or from `1e16` on have an exponent; a tie goes to the even digit.
-/
def compactText (number : Binary64) : String :=
  let size :=
    if number.isZero then
      "0.0"
    else
      let shortest := number.shortestDecimal .even
      let exponent :=
        shortest.exponent + (decimalDigits shortest.coefficient).length - 1
      if exponent < -5 ∨ 16 ≤ exponent then
        shortest.scientific
      else if 0 ≤ shortest.exponent then
        shortest.positional ++ ".0"
      else
        shortest.positional
  if number.isNegative then "-" ++ size else size

end Binary64

end TextWorld.Number
