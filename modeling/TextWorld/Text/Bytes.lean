/-!
# Sizes in bytes

Offsets and lengths of texts are counted in bytes of UTF-8.  A text can be cut
at an offset only if no character has bytes on both sides of it.
-/

namespace TextWorld.Text

/-- How many bytes of UTF-8 the characters take. -/
def byteLength : List Char → Nat
  | [] => 0
  | character :: rest => character.utf8Size + byteLength rest

@[simp]
theorem byteLength_nil : byteLength [] = 0 := rfl

@[simp]
theorem byteLength_cons (character : Char) (rest : List Char) :
    byteLength (character :: rest) = character.utf8Size + byteLength rest := rfl

/-- The size of two parts is the sum of their sizes. -/
@[simp]
theorem byteLength_append (left right : List Char) :
    byteLength (left ++ right) = byteLength left + byteLength right := by
  induction left with
  | nil => simp
  | cons character rest inductive_step => simp [inductive_step, Nat.add_assoc]

/-- Only the empty text takes no bytes. -/
theorem byteLength_pos {characters : List Char} (nonempty : characters ≠ []) :
    0 < byteLength characters := by
  cases characters with
  | nil => exact absurd rfl nonempty
  | cons character rest =>
      exact Nat.add_pos_left (Char.utf8Size_pos character) _

/-- The size does not depend on the order. -/
theorem byteLength_reverse (characters : List Char) :
    byteLength characters.reverse = byteLength characters := by
  induction characters with
  | nil => rfl
  | cons character rest inductive_step => simp [inductive_step, Nat.add_comm]

/-- The characters that lie from the given offset on; an offset inside a
character counts as the offset just after it. -/
def dropBytes : (bytes : Nat) → List Char → List Char
  | _, [] => []
  | bytes, character :: rest =>
      if bytes = 0 then character :: rest
      else dropBytes (bytes - character.utf8Size) rest

/-- Dropping the bytes of a first part leaves the second. -/
@[simp]
theorem dropBytes_append (left right : List Char) :
    dropBytes (byteLength left) (left ++ right) = right := by
  induction left with
  | nil => cases right <;> simp [dropBytes]
  | cons character rest inductive_step =>
      have positive : 0 < character.utf8Size := Char.utf8Size_pos character
      have nonzero : ¬ byteLength (character :: rest) = 0 := by simp; omega
      rw [List.cons_append, dropBytes, if_neg nonzero]
      simp [inductive_step]

/-- The bytes of the characters in UTF-8. -/
def bytes (characters : List Char) : List UInt8 :=
  characters.flatMap String.utf8EncodeChar

/-- Whether the byte is an ASCII digit. -/
def isDigitByte (byte : UInt8) : Bool :=
  0x30 ≤ byte.toNat && byte.toNat ≤ 0x39

/-- What stands before and after an offset in bytes, unless it is in a character
or beyond the end. -/
def splitAtByte? (offset : Nat) : List Char → Option (List Char × List Char)
  | [] => if offset = 0 then some ([], []) else none
  | character :: rest =>
      if offset = 0 then
        some ([], character :: rest)
      else if character.utf8Size ≤ offset then
        (splitAtByte? (offset - character.utf8Size) rest).map fun parts =>
          (character :: parts.1, parts.2)
      else
        none

end TextWorld.Text
