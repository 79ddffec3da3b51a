import TextWorld.Entity.Id
import TextWorld.Proofs.Text.Cuts
import TextWorld.Proofs.Text.Layout

/-!
# The grammar of ids

An id is written as `#` and a numeral of one or more ASCII digits, whose
value is below `2 ^ 64`.  Zeros may lead.  The numeral ends where the
digits end, and since a digit takes one byte, a scanner that counts bytes
finds that end as well.
-/

namespace TextWorld.EntityId

open TextWorld.Text

/-- The token is `#` and a numeral for the number of the id. -/
def Denotes (token : List Char) (id : EntityId) : Prop :=
  ∃ digits, token = '#' :: digits ∧ digits ≠ [] ∧
    (∀ digit ∈ digits, digit.isDigit = true) ∧
      Nat.ofDigitChars 10 digits 0 = id.number.toNat

variable {token : List Char} {id : EntityId}

theorem ofCharacters?_eq_some_iff :
    ofCharacters? token = some id ↔ Denotes token id := by
  constructor
  · intro read
    unfold ofCharacters? at read
    split at read
    · next digits =>
        rcases Option.map_eq_some_iff.mp read with ⟨number, below, rfl⟩
        rcases Option.filter_eq_some_iff.mp below with ⟨value, bounded⟩
        unfold readDecimal at value
        split at value
        · next numeral =>
            cases value
            refine ⟨digits, rfl, numeral.1, List.all_eq_true.mp numeral.2, ?_⟩
            exact (UInt64.toNat_ofNat_of_lt (of_decide_eq_true bounded)).symm
        · cases value
    · cases read
  · rintro ⟨digits, rfl, nonempty, allDigits, value⟩
    have numeral : readDecimal digits = some id.number.toNat := by
      rw [readDecimal, if_pos ⟨nonempty, List.all_eq_true.mpr allDigits⟩, value]
    have bounded : decide (id.number.toNat < twoTo 64) = true :=
      decide_eq_true (toNat_lt_twoTo id.number)
    rw [ofCharacters?, readDecimalBelow, numeral, Option.filter_some,
      if_pos bounded, Option.map_some, ofNat_toNat]

theorem isBlank_of_isDigit
    {character : Char}
    (digit : character.isDigit = true) :
    isBlank character = false := by
  have bounds := isDigit_iff.mp digit
  simp only [isBlank, Bool.or_eq_false_iff, Bool.and_eq_false_imp,
    decide_eq_true_eq, decide_eq_false_iff_not, beq_eq_false_iff_ne]
  omega

theorem Denotes.tight (denotes : Denotes token id) : Tight token := by
  rcases denotes with ⟨digits, rfl, nonempty, allDigits, -⟩
  constructor
  · exact ⟨'#', rfl, by decide⟩
  · refine ⟨digits.getLast nonempty, ?_, ?_⟩
    · rw [List.getLast?_cons, List.getLast?_eq_some_getLast nonempty]
      rfl
    · exact isBlank_of_isDigit (allDigits _ (List.getLast_mem nonempty))

/-- The bytes that a scanner counts end between two characters, after
the last digit. -/
theorem splitAtByte?_tokenLength (rest : List Char) :
    (tokenLength? ('#' :: rest)).bind (splitAtByte? · ('#' :: rest)) =
      some ('#' :: rest.takeWhile Char.isDigit,
        rest.dropWhile Char.isDigit) := by
  have size :
      1 + ((bytes rest).takeWhile isDigitByte).length =
        byteLength ('#' :: rest.takeWhile Char.isDigit) := by
    rw [length_takeWhile_isDigitByte]
    rfl
  have parted :
      '#' :: rest = ('#' :: rest.takeWhile Char.isDigit) ++
        rest.dropWhile Char.isDigit := by
    simp
  have cut :=
    splitAtByte?_append ('#' :: rest.takeWhile Char.isDigit)
      (rest.dropWhile Char.isDigit)
  rw [← parted] at cut
  rw [tokenLength?, Option.bind_some, size, cut]

end TextWorld.EntityId
