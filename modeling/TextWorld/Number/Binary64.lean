import TextWorld.Number.Power

/-!
# Binary floating point in 64 bits

A number is held as its bits: a sign, eleven exponent bits and fifty-two
fraction bits.  Two numbers are the same exactly when their bits are, so `NaN`
equals itself and the two zeros differ.  Arithmetic goes through exact quotients
of natural numbers that are rounded once, to the nearest representable number, a
tie to the even one.
-/

namespace TextWorld.Number

/-- A floating-point number, given by its bits. -/
structure Binary64 where
  bits : UInt64
deriving DecidableEq, Inhabited

namespace Binary64

/-- Whether the sign bit is set. -/
def isNegative (number : Binary64) : Bool :=
  twoTo 63 ≤ number.bits.toNat

/-- The eleven exponent bits. -/
def exponentField (number : Binary64) : Nat :=
  number.bits.toNat / twoTo 52 % twoTo 11

/-- The fifty-two fraction bits. -/
def fractionField (number : Binary64) : Nat :=
  number.bits.toNat % twoTo 52

/-- Whether the number is finite: neither an infinity nor `NaN`. -/
def isFinite (number : Binary64) : Bool :=
  number.exponentField ≠ 2047

/-- Whether the bits stand for no number. -/
def isNaN (number : Binary64) : Bool :=
  number.exponentField = 2047 ∧ number.fractionField ≠ 0

/-- Whether the number is one of the two infinities. -/
def isInfinite (number : Binary64) : Bool :=
  number.exponentField = 2047 ∧ number.fractionField = 0

/-- Whether the number is one of the two zeros. -/
def isZero (number : Binary64) : Bool :=
  number.exponentField = 0 ∧ number.fractionField = 0

/-- The integer `m` for which the size of a finite number is
`m * 2 ^ binaryExponent`. -/
def significand (number : Binary64) : Nat :=
  if number.exponentField = 0 then
    number.fractionField
  else
    twoTo 52 + number.fractionField

/-- The power of two by which `significand` is scaled. -/
def binaryExponent (number : Binary64) : Int :=
  (max number.exponentField 1 : Nat) - 1075

/-- The numerator of the size of a finite number. -/
def numerator (number : Binary64) : Nat :=
  number.significand * twoTo number.binaryExponent.toNat

/-- The denominator of the size of a finite number. -/
def denominator (number : Binary64) : Nat :=
  twoTo (-number.binaryExponent).toNat

/-- The number with the given sign and the given other sixty-three bits. -/
def ofFields (negative : Bool) (size : Nat) : Binary64 :=
  ⟨UInt64.ofNat ((if negative then twoTo 63 else 0) + size)⟩

/-- The zero of the given sign. -/
def zero (negative : Bool) : Binary64 :=
  ofFields negative 0

/-- The number with the other sign. -/
def negate (number : Binary64) : Binary64 :=
  ofFields (!number.isNegative) (number.bits.toNat % twoTo 63)

/-- The quotient rounded to an integer, a tie to the even one. -/
def roundQuotient (numerator denominator : Nat) : Nat :=
  let below := numerator / denominator
  let rest := numerator % denominator
  if 2 * rest < denominator then
    below
  else if denominator < 2 * rest then
    below + 1
  else
    below + below % 2

/-- The bits, without sign, of the number
`significand * 2 ^ (exponent - 1074)`. -/
def encode (significand exponent : Nat) : Nat :=
  if significand < twoTo 52 then
    significand
  else if 2046 ≤ exponent then
    2047 * twoTo 52
  else
    (exponent + 1) * twoTo 52 + (significand - twoTo 52)

/--
The representable number nearest to a positive quotient.

The exponent is chosen so that the rounded significand takes fifty-three bits,
or fewer where the quotient is too small for that.
-/
def ofQuotient (negative : Bool) (numerator denominator : Nat) : Binary64 :=
  if numerator = 0 then
    zero negative
  else
    let guess : Int := (numerator.log2 : Int) - denominator.log2 - 53 + 1074
    let rounded (exponent : Nat) : Nat :=
      roundQuotient (numerator * twoTo 1074) (denominator * twoTo exponent)
    let short := guess.toNat
    let exponent :=
      if numerator * twoTo 1074 <
        twoTo 53 * (denominator * twoTo short) then short else short + 1
    let significand := rounded exponent
    if significand = twoTo 53 then
      ofFields negative (encode (twoTo 52) (exponent + 1))
    else
      ofFields negative (encode significand exponent)

/-- The representable number nearest to a natural number. -/
def ofNat (number : Nat) : Binary64 :=
  ofQuotient false number 1

/-- The product of two finite numbers, rounded once. -/
def times (left right : Binary64) : Binary64 :=
  ofQuotient (left.isNegative != right.isNegative)
    (left.numerator * right.numerator) (left.denominator * right.denominator)

/-- The quotient of two finite numbers, the second of which is not
zero, rounded once. -/
def dividedBy (left right : Binary64) : Binary64 :=
  ofQuotient (left.isNegative != right.isNegative)
    (left.numerator * right.denominator) (left.denominator * right.numerator)

end Binary64

end TextWorld.Number
