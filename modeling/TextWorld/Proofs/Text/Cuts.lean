import TextWorld.Text.Bytes

/-!
# Cutting texts at offsets in bytes

A scanner that counts bytes must cut a text between two characters.  Counting
the bytes that are ASCII digits is such a way to count: no other character
contains a byte of this kind.
-/

namespace TextWorld.Text

theorem utf8ByteSize_ofList (characters : List Char) :
    (String.ofList characters).utf8ByteSize = byteLength characters := by
  induction characters with
  | nil => rfl
  | cons character rest inductive_step =>
      have parted :
          String.ofList (character :: rest) =
            String.singleton character ++ String.ofList rest := by
        rw [← String.toList_inj]
        simp
      rw [parted, String.utf8ByteSize_append, String.utf8ByteSize_singleton,
        inductive_step, byteLength_cons]

/-- The size of a text is that of its characters. -/
theorem byteLength_toList (text : String) :
    byteLength text.toList = text.utf8ByteSize := by
  rw [← utf8ByteSize_ofList, String.ofList_toList]

theorem splitAtByte?_zero (text : List Char) :
    splitAtByte? 0 text = some ([], text) := by
  cases text <;> rfl

/-- The size of a first part is an offset at which the text can be cut. -/
theorem splitAtByte?_append (left right : List Char) :
    splitAtByte? (byteLength left) (left ++ right) = some (left, right) := by
  induction left with
  | nil => exact splitAtByte?_zero right
  | cons character rest inductive_step =>
      have positive := Char.utf8Size_pos character
      rw [byteLength_cons, List.cons_append, splitAtByte?, if_neg (by omega),
        if_pos (by omega), Nat.add_sub_cancel_left, inductive_step]
      rfl

theorem isDigit_iff {character : Char} :
    character.isDigit = true ↔
      0x30 ≤ character.toNat ∧ character.toNat ≤ 0x39 := by
  simp only [Char.isDigit, ge_iff_le, UInt32.le_iff_toNat_le, Bool.and_eq_true,
    decide_eq_true_eq]
  exact Iff.rfl

/-- The first byte of a character is a digit exactly when the
character is one. -/
theorem isDigitByte_head
    {character : Char}
    {first : UInt8}
    {others : List UInt8}
    (encoded : String.utf8EncodeChar character = first :: others) :
    isDigitByte first = character.isDigit := by
  have bounded : character.val.toNat < 2 ^ 32 := character.val.toNat_lt
  rw [Bool.eq_iff_iff, isDigit_iff]
  simp only [isDigitByte, Bool.and_eq_true, decide_eq_true_eq, Char.toNat]
  simp only [String.utf8EncodeChar] at encoded
  -- only a character of one byte has a first byte below 0x80
  repeat' split at encoded
  all_goals
    cases encoded
    rw [UInt8.toNat_ofNat']
    omega

theorem utf8EncodeChar_of_isDigit
    {character : Char}
    (digit : character.isDigit = true) :
    String.utf8EncodeChar character = [character.val.toUInt8] := by
  have small := (isDigit_iff.mp digit).2
  apply String.utf8EncodeChar_eq_singleton
  rw [Char.utf8Size_eq_one_iff, UInt32.le_iff_toNat_le]
  exact Nat.le_trans small (by decide)

/-- The bytes at the start that are digits are the characters at the
start that are. -/
theorem length_takeWhile_isDigitByte (text : List Char) :
    ((bytes text).takeWhile isDigitByte).length =
      byteLength (text.takeWhile Char.isDigit) := by
  induction text with
  | nil => rfl
  | cons character rest inductive_step =>
      rw [bytes, List.flatMap_cons]
      by_cases digit : character.isDigit = true
      · have one := utf8EncodeChar_of_isDigit digit
        have size : character.utf8Size = 1 := by
          rw [← String.length_utf8EncodeChar, one]
          rfl
        have first := isDigitByte_head one
        rw [one, List.singleton_append,
          List.takeWhile_cons_of_pos (first.trans digit),
          List.takeWhile_cons_of_pos digit, List.length_cons,
          byteLength_cons, size, Nat.add_comm]
        exact congrArg (1 + ·) inductive_step
      · cases encoded : String.utf8EncodeChar character with
        | nil =>
            have positive := Char.utf8Size_pos character
            rw [← String.length_utf8EncodeChar, encoded] at positive
            exact absurd positive (Nat.lt_irrefl 0)
        | cons first others =>
            have notDigit : ¬ isDigitByte first = true := by
              rwa [isDigitByte_head encoded]
            rw [List.cons_append, List.takeWhile_cons_of_neg notDigit,
              List.takeWhile_cons_of_neg digit]
            rfl

end TextWorld.Text
