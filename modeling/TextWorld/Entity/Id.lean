import TextWorld.Number.Power
import TextWorld.Text.Bytes
import TextWorld.Text.Decimal

/-!
# Entity ids

An id addresses an object of the shared world.  It is written `#N`, which is
also how generated code refers to the object.  An id says nothing about whether
the object still exists.
-/

namespace TextWorld

open TextWorld.Text

/-- The address of an object of the world. -/
structure EntityId where
  number : UInt64
deriving DecidableEq, Inhabited

namespace EntityId

/-- The id with the given number, which is taken modulo `2 ^ 64`. -/
def ofNat (number : Nat) : EntityId :=
  ⟨UInt64.ofNat number⟩

/-- The characters of an id: `#` and its number. -/
def characters (id : EntityId) : List Char :=
  '#' :: decimalDigits id.number.toNat

/-- The written form of an id, `#N`. -/
def text (id : EntityId) : String :=
  String.ofList id.characters

/-- The form of an id in listings of a program's state. -/
def debugText (id : EntityId) : String :=
  "EntityId(" ++ id.text ++ ")"

/-- Reads `#` and a numeral whose value is below `2 ^ 64`. -/
def ofCharacters? : List Char → Option EntityId
  | '#' :: numeral => (readDecimalBelow (twoTo 64) numeral).map ofNat
  | _ => none

/-- How many bytes are `#` and the digits after it, if the text starts so. -/
def tokenLength? : List Char → Option Nat
  | '#' :: rest => some (1 + ((bytes rest).takeWhile isDigitByte).length)
  | _ => none

/-- The order of ids is the order of their numbers. -/
def compare (left right : EntityId) : Ordering :=
  Ord.compare left.number right.number

@[simp]
theorem toList_text (id : EntityId) : id.text.toList = id.characters :=
  String.toList_ofList

@[simp]
theorem ofNat_toNat (id : EntityId) : ofNat id.number.toNat = id := by
  simp [ofNat]

/-- The written form of an id is read back as that id. -/
@[simp]
theorem ofCharacters?_characters (id : EntityId) :
    ofCharacters? id.characters = some id := by
  have bounded : decide (id.number.toNat < twoTo 64) = true :=
    decide_eq_true (toNat_lt_twoTo id.number)
  rw [characters, ofCharacters?, readDecimalBelow, readDecimal_decimalDigits,
    Option.filter_some, if_pos bounded, Option.map_some, ofNat_toNat]

end EntityId

end TextWorld
