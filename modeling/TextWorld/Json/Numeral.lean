import TextWorld.Json.Mistake
import TextWorld.Number.Shortest

/-!
# Reading JSON numbers

A number without fraction and exponent is an integer as long as it fits 64 bits.
Every other number is a floating-point number: its digits are gathered into an
integer below `2 ^ 64`, further digits only move the decimal point, and that
integer is then multiplied or divided by a power of ten.  Each of these two
steps rounds once.
-/

namespace TextWorld.Json

open TextWorld.Number
open TextWorld.Text

/-- A number of a JSON text. -/
inductive Numeral where
  /-- An integer from zero to `2 ^ 64 - 1`. -/
  | natural (value : Nat)
  /-- An integer below zero, but not below `- 2 ^ 63`. -/
  | negative (value : Int)
  | real (value : Binary64)
deriving DecidableEq

/-- What a number is called where something else was expected. -/
def Numeral.description : Numeral → String
  | .natural value => "integer \x60" ++ decimal value ++ "\x60"
  | .negative value => "integer \x60" ++ signedDecimal value ++ "\x60"
  | .real value => "floating point \x60" ++ value.compactText ++ "\x60"

/-- The value of a decimal digit. -/
def digitValue (digit : Char) : Nat :=
  digit.toNat - '0'.toNat

/-- Whether the characters start with a digit. -/
def startsWithDigit : List Char → Bool
  | [] => false
  | character :: _ => character.isDigit

/-- The power of ten as a floating-point number. -/
def powerOfTen (exponent : Nat) : Binary64 :=
  Binary64.ofNat (tenTo exponent)

/--
A floating-point number divided by `10 ^ exponent`, by at most `10 ^ 308` at a
time; each division rounds.  At most `steps` divisions are done; four are
enough to reach zero.
-/
def scaleDown (number : Binary64) (exponent : Nat) : (steps : Nat) → Binary64
  | 0 => number
  | steps + 1 =>
      if exponent ≤ 308 then
        number.dividedBy (powerOfTen exponent)
      else if number.isZero then
        number
      else
        scaleDown (number.dividedBy (powerOfTen 308)) (exponent - 308) steps

/-- The floating-point number for `significand * 10 ^ exponent`; `none` when
it is too large. -/
def realOfParts (negative : Bool) (significand : Nat) (exponent : Int) :
    Option Binary64 :=
  let start := Binary64.ofNat significand
  let signed (number : Binary64) : Binary64 :=
    if negative then number.negate else number
  if 0 ≤ exponent then
    if exponent ≤ 308 then
      let product := start.times (powerOfTen exponent.toNat)
      if product.isInfinite then none else some (signed product)
    else if start.isZero then
      some (signed start)
    else
      none
  else
    some (signed (scaleDown start (-exponent).toNat 8))

/--
Gathers leading digits into an integer below `2 ^ 64`, as long as there are
digits and room.  The answer is the integer, how many digits it took, and
the text after them.
-/
def gatherDigits (significand taken : Nat) : List Char → Nat × Nat × List Char
  | [] => (significand, taken, [])
  | character :: rest =>
      if character.isDigit && significand * 10 + digitValue character <
        twoTo 64 then
        gatherDigits (significand * 10 + digitValue character) (taken + 1) rest
      else
        (significand, taken, character :: rest)

/-- The floating-point number, or the mistake that it is too large, before
the given rest. -/
def finishReal
    (negative : Bool)
    (significand : Nat)
    (exponent : Int)
    (rest : List Char) :
    Except Mistake (Numeral × List Char) :=
  match realOfParts negative significand exponent with
  | some number => .ok (.real number, rest)
  | none => .error (.before .numberOutOfRange rest)

/-- The digits of an exponent: its value, unless it exceeds 31 bits, and the
text after the part that was looked at. -/
def gatherExponent (value : Nat) : List Char → Option Nat × List Char
  | [] => (some value, [])
  | character :: rest =>
      if character.isDigit then
        if twoTo 31 ≤ value * 10 + digitValue character then
          (none, rest)
        else
          gatherExponent (value * 10 + digitValue character) rest
      else
        (some value, character :: rest)

/-- Reads an exponent after its letter and ends the number. -/
def readExponent
    (negative : Bool)
    (significand : Nat)
    (exponent : Int)
    (characters : List Char) :
    Except Mistake (Numeral × List Char) :=
  let (downward, digits) :=
    match characters with
    | '+' :: rest => (false, rest)
    | '-' :: rest => (true, rest)
    | rest => (false, rest)
  match digits with
  | [] => .error ⟨.endInValue, 0⟩
  | first :: rest =>
      if first.isDigit then
        match gatherExponent (digitValue first) rest with
        | (some value, after) =>
            finishReal negative significand
              (if downward then exponent - value else exponent + value) after
        | (none, after) =>
            if significand ≠ 0 ∧ !downward then
              .error (.before .numberOutOfRange after)
            else
              .ok (.real (Binary64.zero negative), after.dropWhile Char.isDigit)
      else
        .error (.on .invalidNumber digits)

/-- Ends a floating-point number, reading its exponent if it has one. -/
def readScale
    (negative : Bool)
    (significand : Nat)
    (exponent : Int)
    (characters : List Char) :
    Except Mistake (Numeral × List Char) :=
  match characters with
  | 'e' :: rest => readExponent negative significand exponent rest
  | 'E' :: rest => readExponent negative significand exponent rest
  | rest => finishReal negative significand exponent rest

/-- Reads the digits after a decimal point, and then the exponent. -/
def readFraction
    (negative : Bool)
    (significand : Nat)
    (exponent : Int)
    (characters : List Char) :
    Except Mistake (Numeral × List Char) :=
  if startsWithDigit characters then
    let (gathered, taken, rest) := gatherDigits significand 0 characters
    readScale negative gathered (exponent - taken) (rest.dropWhile Char.isDigit)
  else if characters.isEmpty then
    .error ⟨.endInValue, 0⟩
  else
    .error (.on .invalidNumber characters)

/-- The integer of the given sign; zero with a minus sign and an integer that
does not fit become floating-point numbers. -/
def signedInteger (negative : Bool) (significand : Nat) : Numeral :=
  if !negative then
    .natural significand
  else if 0 < significand ∧ significand ≤ twoTo 63 then
    .negative (-(significand : Int))
  else
    .real (Binary64.ofNat significand).negate

/-- Reads what follows the integer digits of a number. -/
def readTail
    (negative : Bool)
    (significand : Nat)
    (characters : List Char) :
    Except Mistake (Numeral × List Char) :=
  match characters with
  | '.' :: rest => readFraction negative significand 0 rest
  | 'e' :: rest => readExponent negative significand 0 rest
  | 'E' :: rest => readExponent negative significand 0 rest
  | rest => .ok (signedInteger negative significand, rest)

/-- Reads a number after its sign. -/
def readUnsigned (negative : Bool) (characters : List Char) :
    Except Mistake (Numeral × List Char) :=
  match characters with
  | [] => .error ⟨.endInValue, 0⟩
  | '0' :: rest =>
      if startsWithDigit rest then
        .error (.on .invalidNumber rest)
      else
        readTail negative 0 rest
  | first :: rest =>
      if first.isDigit then
        let (significand, _, after) := gatherDigits (digitValue first) 1 rest
        if startsWithDigit after then
          let shifted : Int := (after.takeWhile Char.isDigit).length
          match after.dropWhile Char.isDigit with
          | '.' :: fraction =>
              readFraction negative significand shifted fraction
          | others => readScale negative significand shifted others
        else
          readTail negative significand after
      else
        .error (.on .invalidNumber characters)

/-- Reads a number. -/
def readNumeral : List Char → Except Mistake (Numeral × List Char)
  | '-' :: rest => readUnsigned true rest
  | rest => readUnsigned false rest

end TextWorld.Json
