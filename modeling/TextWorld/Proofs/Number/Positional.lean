import TextWorld.Proofs.Number.Search
import TextWorld.Proofs.Text.Cuts
import TextWorld.Value.Display

/-!
# Numbers in positional notation

A finite number is displayed by digits around a point.  They stand for a size
that is rounded to the number, so a number is known from its display: no two are
displayed alike, apart from the bit patterns that stand for no number.
-/

namespace TextWorld

open TextWorld.Number
open TextWorld.Text

namespace Number

/-- The text is made of digits around a point, and stands for the size. -/
def Writes (text : List Char) (size : ℚ) : Prop :=
  ∃ whole part,
    text = whole ++ '.' :: part ∧
    (∀ character ∈ whole ++ part, character.isDigit = true) ∧
    (Nat.ofDigitChars 10 (whole ++ part) 0 : ℚ) = size * 10 ^ part.length

/-- The text with a point and a zero after it, if there is no point in it. -/
def withPoint (text : List Char) : List Char :=
  if '.' ∈ text then text else text ++ ['.', '0']

variable {text : List Char} {size : ℚ}

theorem ne_point_of_isDigit {character : Char}
    (digit : character.isDigit = true) :
    character ≠ '.' := by
  rintro rfl
  cases digit

theorem Writes.characters (writes : Writes text size) :
    ∀ character ∈ text, character.isDigit = true ∨ character = '.' := by
  obtain ⟨whole, part, rfl, digits, -⟩ := writes
  intro character member
  rcases List.mem_append.mp member with inWhole | inRest
  · exact .inl (digits character (List.mem_append_left part inWhole))
  · rcases List.mem_cons.mp inRest with point | inPart
    · exact .inr point
    · exact .inl (digits character (List.mem_append_right whole inPart))

theorem Writes.mem_point (writes : Writes text size) : '.' ∈ text := by
  obtain ⟨whole, part, rfl, -⟩ := writes
  exact List.mem_append_right whole List.mem_cons_self

theorem Writes.noSign (writes : Writes text size) : '-' ∉ text := by
  intro member
  rcases writes.characters '-' member with digit | point
  · cases digit
  · cases point

/-- A text stands for one size. -/
theorem Writes.unique
    {other : ℚ}
    (writes : Writes text size)
    (writesOther : Writes text other) :
    size = other := by
  obtain ⟨whole, part, rfl, digits, value⟩ := writes
  obtain ⟨otherWhole, otherPart, same, -, otherValue⟩ := writesOther
  have onePoint : '.' ∉ whole ++ part :=
    fun member => ne_point_of_isDigit (digits '.' member) rfl
  rw [List.mem_append, not_or] at onePoint
  obtain ⟨rfl, -, rfl⟩ :=
    (List.append_cons_inj_of_notMem onePoint.1 onePoint.2).mp same
  have scaled := value.symm.trans otherValue
  exact mul_right_cancel₀ (by positivity) scaled

theorem withPoint_of_digits
    (digits : ∀ character ∈ text, character.isDigit = true) :
    withPoint text = text ++ ['.', '0'] :=
  if_neg fun member => ne_point_of_isDigit (digits '.' member) rfl

/-- A sign is told from what it stands before. -/
theorem sign_append_injective
    {negative otherNegative : Prop}
    [Decidable negative]
    [Decidable otherNegative]
    {other : List Char}
    (noSign : '-' ∉ text)
    (otherNoSign : '-' ∉ other)
    (same :
      (if negative then ['-'] else []) ++ text =
        (if otherNegative then ['-'] else []) ++ other) :
    (negative ↔ otherNegative) ∧ text = other := by
  split at same <;> split at same
  · next isNegative otherIsNegative =>
      exact ⟨iff_of_true isNegative otherIsNegative,
        List.append_cancel_left same⟩
  · have signed : other = '-' :: text := same.symm
    exact absurd (signed ▸ List.mem_cons_self) otherNoSign
  · have signed : text = '-' :: other := same
    exact absurd (signed ▸ List.mem_cons_self) noSign
  · next notNegative otherNotNegative =>
      exact ⟨iff_of_false notNegative otherNotNegative, same⟩

/-- Digits without a point stand for a whole number. -/
theorem writes_whole (text : List Char)
    (digits : ∀ character ∈ text, character.isDigit = true) :
    Writes (withPoint text) (Nat.ofDigitChars 10 text 0 : ℕ) := by
  refine ⟨text, ['0'], withPoint_of_digits digits, ?_, ?_⟩
  · rw [List.forall_mem_append, List.forall_mem_singleton]
    exact ⟨digits, by decide⟩
  · have zero : Nat.ofDigitChars 10 ['0'] (Nat.ofDigitChars 10 text 0) =
        10 * Nat.ofDigitChars 10 text 0 := rfl
    rw [Nat.ofDigitChars_append, zero, Nat.cast_mul, Nat.cast_ofNat, mul_comm]
    exact congrArg (_ * ·) (pow_one 10).symm

/-- Digits with a point among them stand for a fraction. -/
theorem writes_fraction
    {whole part : List Char}
    (digits : ∀ character ∈ whole ++ part, character.isDigit = true) :
    Writes (withPoint (whole ++ '.' :: part))
      (Nat.ofDigitChars 10 (whole ++ part) 0 * 10 ^ (-part.length : ℤ)) := by
  have point : '.' ∈ whole ++ '.' :: part :=
    List.mem_append_right whole List.mem_cons_self
  refine ⟨whole, part, if_pos point, digits, ?_⟩
  rw [mul_assoc, zpow_neg, zpow_natCast,
    inv_mul_cancel₀ (by positivity), mul_one]

section Digits

variable (coefficient count : Nat)

theorem isDigit_of_mem_digits :
    ∀ character ∈ decimalDigits coefficient, character.isDigit = true :=
  fun _ => isDigit_of_mem_decimalDigits

theorem isDigit_of_mem_zeros :
    ∀ character ∈ List.replicate count '0', character.isDigit = true := by
  intro character member
  rw [List.eq_of_mem_replicate member]
  decide

/-- Zeros after the digits of a number. -/
theorem writes_zeros_after :
    Writes (withPoint (decimalDigits coefficient ++ List.replicate count '0'))
      (coefficient * 10 ^ (count : ℤ)) := by
  have writes :=
    writes_whole (decimalDigits coefficient ++ List.replicate count '0')
    (List.forall_mem_append.mpr ⟨isDigit_of_mem_digits coefficient,
        isDigit_of_mem_zeros count⟩)
  rw [Nat.ofDigitChars_append, decimalDigits, Nat.ofDigitChars_ten_toDigits,
    Nat.ofDigitChars_replicate_zero, mul_comm, Nat.cast_mul,
      Nat.cast_pow, Nat.cast_ofNat,
    ← zpow_natCast] at writes
  exact writes

/-- A point among the digits of a number. -/
theorem writes_point_inside
    (inside : count ≤ (decimalDigits coefficient).length) :
    let digits := decimalDigits coefficient
    Writes
      (withPoint
        (digits.take (digits.length - count) ++ '.' ::
          digits.drop (digits.length - count)))
      (coefficient * 10 ^ (-count : ℤ)) := by
  intro digits
  have parted := List.take_append_drop (digits.length - count) digits
  have writes :=
    writes_fraction (by rw [parted]; exact isDigit_of_mem_digits coefficient)
  have value : Nat.ofDigitChars 10 digits 0 = coefficient :=
    Nat.ofDigitChars_ten_toDigits
  rw [parted, value, List.length_drop, Nat.sub_sub_self inside] at writes
  exact writes

/-- Zeros between the point and the digits of a number. -/
theorem writes_zeros_before
    (outside : (decimalDigits coefficient).length ≤ count) :
    let digits := decimalDigits coefficient
    Writes
      (withPoint ('0' :: '.' ::
          (List.replicate (count - digits.length) '0' ++ digits)))
      (coefficient * 10 ^ (-count : ℤ)) := by
  intro digits
  have isDigit : ∀ character ∈
      ['0'] ++ (List.replicate (count - digits.length) '0' ++ digits),
      character.isDigit = true :=
    List.forall_mem_append.mpr ⟨isDigit_of_mem_zeros 1,
      List.forall_mem_append.mpr ⟨isDigit_of_mem_zeros _,
        isDigit_of_mem_digits coefficient⟩⟩
  have zeros : Nat.ofDigitChars 10 (List.replicate (count - digits.length) '0')
      (Nat.ofDigitChars 10 ['0'] 0) = 0 := Nat.ofDigitChars_replicate_zero
  have value : Nat.ofDigitChars 10 digits 0 = coefficient :=
    Nat.ofDigitChars_ten_toDigits
  have writes := writes_fraction isDigit
  rw [Nat.ofDigitChars_append, Nat.ofDigitChars_append,
    zeros, value, List.length_append, List.length_replicate,
    Nat.sub_add_cancel outside] at writes
  exact writes

end Digits

/-- What is written of a decimal in positional notation stands for its size. -/
theorem Decimal.writes_positional (number : Decimal) :
    Writes (withPoint number.positional.toList) number.size := by
  rw [positional, size]
  simp only
  split
  · next whole =>
      have writes := writes_zeros_after number.coefficient number.exponent.toNat
      rw [Int.toNat_of_nonneg whole] at writes
      rw [String.toList_ofList]
      exact writes
  · next fraction =>
      have places :
          (-((-number.exponent).toNat : ℕ) : ℤ) = number.exponent := by omega
      split
      · next inside =>
          have writes := writes_point_inside number.coefficient _ inside.le
          rw [places] at writes
          rw [String.toList_ofList]
          exact writes
      · next outside =>
          have writes :=
            writes_zeros_before number.coefficient _ (Nat.not_lt.mp outside)
          rw [places] at writes
          rw [String.toList_ofList]
          exact writes

namespace Binary64

/-- The sign of a number as it is written. -/
def sign (number : Binary64) : List Char :=
  if number.isNegative then ['-'] else []

/-- What is written of the size of a finite number, before the
point is added. -/
def sizeText (number : Binary64) : String :=
  if number.isZero then "0" else (number.shortestDecimal .up).positional

variable {number other : Binary64}

theorem isZero_iff : number.isZero = true ↔ number.rank = 0 := by
  rw [isZero, decide_eq_true_eq, exponentField_eq,
    fractionField_eq, twoTo_fiftyTwo]
  omega

theorem isFinite_eq_true_iff :
    number.isFinite = true ↔ number.exponentField ≠ 2047 :=
  decide_eq_true_iff

theorem isInfinite_eq_true_iff :
    number.isInfinite = true ↔
      number.exponentField = 2047 ∧ number.fractionField = 0 :=
  decide_eq_true_iff

theorem isNaN_eq_true_iff :
    number.isNaN = true ↔
      number.exponentField = 2047 ∧ number.fractionField ≠ 0 :=
  decide_eq_true_iff

/-- The infinities are right above the finite numbers. -/
theorem rank_of_isInfinite (infinite : number.isInfinite = true) :
    number.rank = 2047 * twoTo 52 := by
  obtain ⟨exponent, fraction⟩ := isInfinite_eq_true_iff.mp infinite
  rw [exponentField_eq, twoTo_fiftyTwo] at exponent
  rw [fractionField_eq, twoTo_fiftyTwo] at fraction
  rw [twoTo_fiftyTwo]
  omega

theorem isFinite_or_isInfinite_or_isNaN (number : Binary64) :
    number.isFinite = true ∨ number.isInfinite = true ∨
      number.isNaN = true := by
  rw [isFinite_eq_true_iff, isInfinite_eq_true_iff, isNaN_eq_true_iff]
  by_cases exponent : number.exponentField = 2047
  · by_cases fraction : number.fractionField = 0
    · exact .inr (.inl ⟨exponent, fraction⟩)
    · exact .inr (.inr ⟨exponent, fraction⟩)
  · exact .inl exponent

/-- Numbers of one sign and one rank are the same. -/
theorem eq_of_rank_eq
    (sameSign : number.isNegative = other.isNegative)
    (sameRank : number.rank = other.rank) :
    number = other := by
  have sameBits : number.bits.toNat = other.bits.toNat := by
    have bounded := number.bits.toNat_lt
    have otherBounded := other.bits.toNat_lt
    have half : twoTo 63 = 9223372036854775808 := rfl
    rw [isNegative, isNegative, decide_eq_decide, half] at sameSign
    rw [rank, rank, half] at sameRank
    omega
  obtain ⟨bits⟩ := number
  obtain ⟨otherBits⟩ := other
  exact congrArg mk (UInt64.toNat_inj.mp sameBits)

/-- The size that is written of a finite number is rounded to it. -/
theorem exists_writes_sizeText (number : Binary64) :
    ∃ size, Writes (withPoint number.sizeText.toList) size ∧
      RoundsTo (size * unitsInOne) number.rank := by
  rw [sizeText]
  split
  · next zero =>
      rw [isZero_iff] at zero
      refine ⟨(0 : ℕ), writes_whole ['0'] (isDigit_of_mem_zeros 1), ?_⟩
      have least : units 0 = 0 := rfl
      rw [zero, Nat.cast_zero, zero_mul]
      refine ⟨?_, by positivity⟩
      rw [Nat.zero_sub, least, Nat.cast_zero, add_zero, zero_div]
  · next nonzero =>
      rw [isZero_iff] at nonzero
      exact ⟨_, Decimal.writes_positional _,
        shortestDecimal_roundsTo nonzero .up⟩

/-- The text without sign that a number is displayed by. -/
inductive ShowsSize (number : Binary64) : List Char → Prop where
  | finite {text : List Char} {size : ℚ}
      (writes : Writes text size)
      (rounds : RoundsTo (size * unitsInOne) number.rank) :
      ShowsSize number text
  | infinite (isInfinite : number.isInfinite = true) :
      ShowsSize number ['i', 'n', 'f']

theorem ShowsSize.noSign {text : List Char} (shows : number.ShowsSize text) :
    '-' ∉ text := by
  cases shows with
  | finite writes => exact writes.noSign
  | infinite => decide

/-- A text shows the size of one number. -/
theorem ShowsSize.unique
    {text : List Char}
    (shows : number.ShowsSize text)
    (showsOther : other.ShowsSize text) :
    number.rank = other.rank := by
  have notWritten {size : ℚ} (writes : Writes ['i', 'n', 'f'] size) : False :=
    absurd writes.mem_point (by decide)
  cases shows with
  | finite writes rounds =>
      cases showsOther with
      | finite writesOther roundsOther =>
          rw [writesOther.unique writes] at roundsOther
          exact rounds.unique roundsOther
      | infinite => exact (notWritten writes).elim
  | infinite isInfinite =>
      cases showsOther with
      | finite writesOther => exact (notWritten writesOther).elim
      | infinite otherIsInfinite =>
          rw [rank_of_isInfinite isInfinite, rank_of_isInfinite otherIsInfinite]

end Binary64

end Number

namespace Value

variable {number other : Binary64}

/-- The display of a finite number. -/
theorem toList_displayedNumber (finite : number.isFinite = true) :
    (displayedNumber number).toList =
      number.sign ++ withPoint number.sizeText.toList := by
  have exponent := of_decide_eq_true finite
  have text : number.text.toList = number.sign ++ number.sizeText.toList := by
    have isNumber : number.isNaN = false :=
      decide_eq_false fun invalid => exponent invalid.1
    have notInfinite : number.isInfinite = false :=
      decide_eq_false fun infinite => exponent infinite.1
    simp only [Binary64.text, isNumber, notInfinite,
      Bool.false_eq_true, if_false]
    rw [← Binary64.sizeText, Binary64.sign]
    split
    · exact String.toList_append
    · rfl
  have point : '.' ∈ number.text.toList ↔ '.' ∈ number.sizeText.toList := by
    rw [text, List.mem_append, or_iff_right]
    rw [Binary64.sign]
    split <;> decide
  rw [displayedNumber, withPoint, finite, List.contains_eq_mem]
  by_cases inside : '.' ∈ number.sizeText.toList
  · rw [if_pos inside, ← text, decide_eq_true (point.mpr inside)]
    rfl
  · rw [if_neg inside, ← List.append_assoc, ← text,
      decide_eq_false (mt point.mp inside)]
    exact String.toList_append

theorem toList_displayedNumber_of_isInfinite
    (infinite : number.isInfinite = true) :
    (displayedNumber number).toList = number.sign ++ ['i', 'n', 'f'] := by
  obtain ⟨exponent, fraction⟩ := Binary64.isInfinite_eq_true_iff.mp infinite
  have notFinite : number.isFinite = false :=
    decide_eq_false (not_not_intro exponent)
  have isNumber : number.isNaN = false :=
    decide_eq_false fun invalid => invalid.2 fraction
  simp only [displayedNumber, notFinite, Binary64.text, isNumber, infinite,
    Binary64.sign, Bool.false_and, Bool.false_eq_true, if_false, if_true]
  cases number.isNegative <;> decide

theorem displayedNumber_of_isNaN (invalid : number.isNaN = true) :
    displayedNumber number = "NaN" := by
  obtain ⟨exponent, -⟩ := Binary64.isNaN_eq_true_iff.mp invalid
  have notFinite : number.isFinite = false :=
    decide_eq_false (not_not_intro exponent)
  rw [displayedNumber, notFinite, Binary64.text, invalid]
  rfl

/-- A number is displayed by its sign and its size. -/
theorem exists_showsSize (isNumber : number.isNaN = false) :
    ∃ size, (displayedNumber number).toList = number.sign ++ size ∧
      number.ShowsSize size := by
  rcases number.isFinite_or_isInfinite_or_isNaN with finite | infinite | invalid
  · obtain ⟨size, writes, rounds⟩ := number.exists_writes_sizeText
    exact ⟨_, toList_displayedNumber finite, .finite writes rounds⟩
  · exact ⟨_, toList_displayedNumber_of_isInfinite infinite, .infinite infinite⟩
  · rw [isNumber] at invalid
    cases invalid

/-- A number is known from its display. -/
theorem displayedNumber_injective
    (isNumber : number.isNaN = false)
    (otherIsNumber : other.isNaN = false)
    (same : displayedNumber number = displayedNumber other) :
    number = other := by
  obtain ⟨size, written, shows⟩ := exists_showsSize isNumber
  obtain ⟨otherSize, otherWritten, showsOther⟩ := exists_showsSize otherIsNumber
  rw [same, otherWritten] at written
  obtain ⟨sameSign, rfl⟩ :=
    sign_append_injective showsOther.noSign shows.noSign written
  exact Binary64.eq_of_rank_eq (Bool.eq_iff_iff.mpr sameSign.symm)
    (shows.unique showsOther)

end Value

end TextWorld
