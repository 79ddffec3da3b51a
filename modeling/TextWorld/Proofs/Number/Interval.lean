import Mathlib.Algebra.Order.Field.Power
import Mathlib.Data.Rat.Cast.Order
import Mathlib.Order.Monotone.Basic
import Mathlib.Tactic.FieldSimp
import Mathlib.Tactic.Linarith
import Mathlib.Tactic.Positivity
import Mathlib.Tactic.Ring
import TextWorld.Number.Shortest

/-!
# The sizes that are read back as a number

The numbers of one sign are ranked from zero upwards, and sizes are
counted in units of the least positive number.  From one rank to the next
the size grows by a power of two, the gap.  A quotient is read back as a
number when it lies between the midpoints to the neighbours, so it is read
back as one number at most.
-/

namespace TextWorld.Number

theorem twoTo_pos (exponent : Nat) : 0 < twoTo exponent :=
  Nat.pow_pos (by decide)

theorem twoTo_add (left right : Nat) :
    twoTo (left + right) = twoTo left * twoTo right :=
  Nat.pow_add 2 left right

theorem twoTo_succ (exponent : Nat) :
    twoTo (exponent + 1) = 2 * twoTo exponent :=
  Nat.pow_succ'

theorem cast_twoTo (exponent : Nat) : (twoTo exponent : ℚ) = 2 ^ exponent := by
  rw [twoTo, Nat.pow_eq, Nat.cast_pow, Nat.cast_ofNat]

theorem twoTo_fiftyTwo : twoTo 52 = 4503599627370496 :=
  rfl

namespace Binary64

/-- The place of a number among those of its sign. -/
def rank (number : Binary64) : Nat :=
  number.bits.toNat % twoTo 63

/-- By how much the number of the next rank is larger. -/
def gap (rank : Nat) : Nat :=
  twoTo (rank / twoTo 52 - 1)

/-- The size of the number of the rank. -/
def units (rank : Nat) : Nat :=
  if rank / twoTo 52 = 0 then rank else (twoTo 52 + rank % twoTo 52) * gap rank

/-- How many units there are in one. -/
def unitsInOne : ℚ :=
  twoTo 1074

/-- The size is rounded to the number of the rank: it lies between the midpoints
to its neighbours, and may be one of them when the rank is even. -/
def RoundsTo (size : ℚ) (rank : Nat) : Prop :=
  let lower : ℚ := (units (rank - 1) + units rank) / 2
  let upper : ℚ := (units rank + units (rank + 1)) / 2
  if rank % 2 = 0 then lower ≤ size ∧ size ≤ upper
  else lower < size ∧ size < upper

variable {size : ℚ} {rank : Nat}

/-! ## Sizes of the ranks -/

theorem gap_pos (rank : Nat) : 0 < gap rank :=
  twoTo_pos _

theorem gap_le_gap_succ (rank : Nat) : gap rank ≤ gap (rank + 1) := by
  apply Nat.pow_le_pow_right (by decide)
  exact Nat.sub_le_sub_right (Nat.div_le_div_right (Nat.le_succ rank)) 1

section Fields

variable {exponent fraction : Nat}

theorem exists_fields (rank : Nat) :
    ∃ exponent fraction,
      fraction < twoTo 52 ∧ rank = twoTo 52 * exponent + fraction :=
  ⟨rank / twoTo 52, rank % twoTo 52, Nat.mod_lt rank (twoTo_pos 52),
    (Nat.div_add_mod rank (twoTo 52)).symm⟩

theorem gap_fields (small : fraction < twoTo 52) :
    gap (twoTo 52 * exponent + fraction) = twoTo (exponent - 1) := by
  rw [gap, Nat.mul_add_div (twoTo_pos 52), Nat.div_eq_of_lt small, Nat.add_zero]

theorem units_first (small : fraction < twoTo 52) :
    units (twoTo 52 * 0 + fraction) = fraction := by
  rw [Nat.mul_zero, Nat.zero_add, units, if_pos (Nat.div_eq_of_lt small)]

theorem units_fields (small : fraction < twoTo 52) :
    units (twoTo 52 * (exponent + 1) + fraction) =
      (twoTo 52 + fraction) * twoTo exponent := by
  rw [units, gap_fields small, Nat.mul_add_div (twoTo_pos 52),
    Nat.div_eq_of_lt small, Nat.mul_add_mod, Nat.mod_eq_of_lt small,
    if_neg (Nat.succ_ne_zero _), Nat.add_sub_cancel]

end Fields

theorem units_succ (rank : Nat) : units (rank + 1) = units rank + gap rank := by
  obtain ⟨exponent, fraction, small, rfl⟩ := exists_fields rank
  rw [gap_fields small]
  rcases Nat.lt_or_eq_of_le (Nat.succ_le_of_lt small) with inside | carry
  · rw [Nat.add_assoc]
    cases exponent with
    | zero => rw [units_first inside, units_first small]; rfl
    | succ below =>
        rw [units_fields inside, units_fields small, Nat.add_sub_cancel,
          Nat.succ_eq_add_one]
        ring
  · have next :
        twoTo 52 * exponent + fraction + 1 = twoTo 52 * (exponent + 1) + 0 := by
      rw [Nat.add_assoc, ← Nat.succ_eq_add_one fraction, carry,
        Nat.mul_succ, Nat.add_zero]
    rw [next, units_fields (twoTo_pos 52), Nat.add_zero]
    cases exponent with
    | zero => rw [units_first small, ← carry]; exact Nat.mul_one _
    | succ below =>
        rw [units_fields small, Nat.add_sub_cancel, twoTo_succ below, ← carry,
          Nat.succ_eq_add_one]
        ring

/-- A size takes no more than fifty-three binary digits if it is
counted in gaps. -/
theorem units_succ_le (rank : Nat) :
    units (rank + 1) ≤ twoTo 53 * gap rank := by
  rw [units_succ]
  obtain ⟨exponent, fraction, small, rfl⟩ := exists_fields rank
  rw [gap_fields small]
  cases exponent with
  | zero =>
      rw [units_first small]
      calc fraction + 1 ≤ twoTo 52 := small
        _ ≤ twoTo 53 * 1 := by decide
  | succ below =>
      rw [units_fields small, Nat.add_sub_cancel, twoTo_succ 52]
      calc (twoTo 52 + fraction) * twoTo below + twoTo below
          = (twoTo 52 + (fraction + 1)) * twoTo below := by ring
        _ ≤ 2 * twoTo 52 * twoTo below := by
          apply Nat.mul_le_mul_right
          omega

theorem units_strictMono : StrictMono units := by
  apply strictMono_nat_of_lt_succ
  intro rank
  rw [units_succ]
  exact Nat.lt_add_of_pos_right (gap_pos rank)

/-! ## No size is rounded to two numbers -/

theorem RoundsTo.between (rounds : RoundsTo size rank) :
    (units (rank - 1) + units rank) / 2 ≤ size ∧
      size ≤ (units rank + units (rank + 1)) / 2 := by
  unfold RoundsTo at rounds
  split at rounds
  · exact rounds
  · exact ⟨rounds.1.le, rounds.2.le⟩

theorem roundsTo_of_inside
    (above : (units (rank - 1) + units rank) / 2 < size)
    (below : size < (units rank + units (rank + 1)) / 2) :
    RoundsTo size rank := by
  unfold RoundsTo
  split
  · exact ⟨above.le, below.le⟩
  · exact ⟨above, below⟩

theorem RoundsTo.not_lt
    {other : Nat}
    (rounds : RoundsTo size rank)
    (roundsOther : RoundsTo size other) :
    ¬ rank < other := by
  intro before
  have lower : (units rank : ℚ) ≤ units (other - 1) := by
    exact_mod_cast units_strictMono.monotone (Nat.le_sub_one_of_lt before)
  have upper : (units (rank + 1) : ℚ) ≤ units other := by
    exact_mod_cast units_strictMono.monotone before
  -- the midpoint between the two is the only size for both, and one of
  -- the ranks is odd
  have notAbove := rounds.between.2
  have notBelow := roundsOther.between.1
  have adjacent : rank + 1 = other := by
    apply units_strictMono.injective
    have same : (units (rank + 1) : ℚ) = units other := by linarith
    exact_mod_cast same
  subst adjacent
  rw [Nat.add_sub_cancel] at notBelow
  unfold RoundsTo at rounds roundsOther
  rw [Nat.add_sub_cancel] at roundsOther
  split at rounds
  · next even =>
      rw [if_neg (by omega)] at roundsOther
      linarith [roundsOther.1]
  · linarith [rounds.2]

theorem RoundsTo.unique
    {other : Nat}
    (rounds : RoundsTo size rank)
    (roundsOther : RoundsTo size other) :
    rank = other :=
  Nat.le_antisymm (Nat.not_lt.mp (roundsOther.not_lt rounds))
    (Nat.not_lt.mp (rounds.not_lt roundsOther))

/-! ## Reading back -/

theorem exponentField_eq (number : Binary64) :
    number.exponentField = number.rank / twoTo 52 := by
  have blocks : twoTo 63 = twoTo 52 * twoTo 11 := by decide
  rw [exponentField, rank, blocks, Nat.mod_mul_right_div_self]

theorem fractionField_eq (number : Binary64) :
    number.fractionField = number.rank % twoTo 52 := by
  have divides : twoTo 52 ∣ twoTo 63 := by decide
  rw [fractionField, rank, Nat.mod_mod_of_dvd _ divides]

variable {number : Binary64}

theorem significand_mul_gap :
    number.significand * gap number.rank = units number.rank := by
  rw [significand, exponentField_eq, fractionField_eq]
  obtain ⟨exponent, fraction, small, same⟩ := exists_fields number.rank
  rw [same, gap_fields small, Nat.mul_add_div (twoTo_pos 52),
    Nat.div_eq_of_lt small, Nat.mul_add_mod, Nat.mod_eq_of_lt small,
    Nat.add_zero]
  cases exponent with
  | zero => rw [if_pos rfl, units_first small]; exact Nat.mul_one _
  | succ below =>
      rw [if_neg (Nat.succ_ne_zero _), units_fields small, Nat.add_sub_cancel]

theorem significand_mod_two : number.significand % 2 = number.rank % 2 := by
  rw [significand, exponentField_eq, fractionField_eq, twoTo_fiftyTwo]
  split <;> omega

theorem isLowestOfExponent_iff :
    number.isLowestOfExponent = true ↔
      number.rank % twoTo 52 = 0 ∧ 1 < number.rank / twoTo 52 := by
  rw [isLowestOfExponent, decide_eq_true_eq, fractionField_eq, exponentField_eq]

/-- The gap below the lowest number of an exponent is half the gap above it. -/
theorem gap_eq_of_isLowest (lowest : number.isLowestOfExponent = true) :
    gap number.rank = 2 * gap (number.rank - 1) := by
  obtain ⟨zero, above⟩ := isLowestOfExponent_iff.mp lowest
  obtain ⟨below, isBelow⟩ : ∃ below, number.rank / twoTo 52 = below + 2 :=
    ⟨_, (Nat.sub_add_cancel above).symm⟩
  have before : (number.rank - 1) / twoTo 52 = below + 1 := by
    rw [twoTo_fiftyTwo] at *
    omega
  rw [gap, gap, isBelow, before, ← twoTo_succ]
  rfl

/-- Below any other number the gap is the same as above it. -/
theorem gap_eq_of_not_isLowest
    (positive : number.rank ≠ 0)
    (notLowest : number.isLowestOfExponent = false) :
    gap number.rank = gap (number.rank - 1) := by
  have notFirst :
      ¬ (number.rank % twoTo 52 = 0 ∧ 1 < number.rank / twoTo 52) := by
    rw [← isLowestOfExponent_iff, notLowest]
    exact Bool.false_ne_true
  have sameExponent :
      number.rank / twoTo 52 - 1 = (number.rank - 1) / twoTo 52 - 1 := by
    have above := Nat.pos_of_ne_zero positive
    rw [twoTo_fiftyTwo] at *
    omega
  rw [gap, gap, sameExponent]

/-- The lower end of an interval is the midpoint to the number below. -/
theorem lower_mul_gap (positive : number.rank ≠ 0) :
    (4 * number.significand - if number.isLowestOfExponent then 1 else 2) *
      gap number.rank =
      2 * (units (number.rank - 1) + units number.rank) := by
  obtain ⟨below, isBelow⟩ := Nat.exists_eq_add_one_of_ne_zero positive
  have step :
      units number.rank = units (number.rank - 1) + gap (number.rank - 1) := by
    rw [isBelow, Nat.add_sub_cancel, units_succ]
  rw [Nat.sub_mul, Nat.mul_assoc, significand_mul_gap]
  cases lowest : number.isLowestOfExponent with
  | true =>
      rw [if_pos rfl, gap_eq_of_isLowest lowest]
      omega
  | false =>
      rw [if_neg Bool.false_ne_true, gap_eq_of_not_isLowest positive lowest]
      omega

theorem upper_mul_gap (number : Binary64) :
    (4 * number.significand + 2) * gap number.rank =
      2 * (units number.rank + units (number.rank + 1)) := by
  rw [Nat.add_mul, Nat.mul_assoc, significand_mul_gap, units_succ]
  omega

theorem twoTo_binaryExponent (number : Binary64) :
    twoTo number.binaryExponent.toNat * twoTo 1074 =
      gap number.rank * number.denominator := by
  have exponents : number.binaryExponent.toNat + 1074 =
      number.exponentField - 1 + (-number.binaryExponent).toNat := by
    rw [binaryExponent]
    omega
  rw [gap, denominator, ← exponentField_eq, ← twoTo_add, ← twoTo_add, exponents]

theorem unitsInOne_pos : 0 < unitsInOne :=
  Nat.cast_pos.mpr (twoTo_pos 1074)

theorem denominator_pos (number : Binary64) : (0 : ℚ) < number.denominator :=
  Nat.cast_pos.mpr (twoTo_pos _)

/-- The size of a finite number, in units. -/
theorem numerator_div_denominator (number : Binary64) :
    number.numerator / number.denominator * unitsInOne = units number.rank := by
  have scaled : number.numerator * twoTo 1074 =
      units number.rank * number.denominator := by
    rw [numerator, Nat.mul_assoc, twoTo_binaryExponent, ← Nat.mul_assoc,
      significand_mul_gap]
  rw [div_mul_eq_mul_div, div_eq_iff number.denominator_pos.ne', unitsInOne]
  exact_mod_cast scaled

section Comparison

variable {numerator denominator : Nat}

/-- The factor by which a comparison of sizes is scaled to one of
natural numbers. -/
def scaleFactor (number : Binary64) (denominator : Nat) : ℚ :=
  4 * denominator * number.denominator / unitsInOne

theorem scaleFactor_pos (number : Binary64) (positive : 0 < denominator) :
    0 < number.scaleFactor denominator := by
  have denominatorPositive : (0 : ℚ) < denominator := Nat.cast_pos.mpr positive
  exact div_pos
    (mul_pos (mul_pos four_pos denominatorPositive) number.denominator_pos)
    unitsInOne_pos

theorem scaled_value (number : Binary64) (numerator : Nat)
    (positive : 0 < denominator) :
    ((4 * numerator * number.denominator : ℕ) : ℚ) =
      number.scaleFactor denominator *
        (numerator / denominator * unitsInOne) := by
  have denominatorNonzero : (denominator : ℚ) ≠ 0 :=
    Nat.cast_ne_zero.mpr positive.ne'
  have oneNonzero := unitsInOne_pos.ne'
  rw [scaleFactor]
  push_cast
  field_simp

theorem scaled_end
    {quarters sum : Nat}
    (isEnd : quarters * gap number.rank = 2 * sum)
    (denominator : Nat) :
    ((quarters * twoTo number.binaryExponent.toNat * denominator : ℕ) : ℚ) =
      number.scaleFactor denominator * (sum / 2) := by
  have shifted : quarters * twoTo number.binaryExponent.toNat * twoTo 1074 =
      2 * sum * number.denominator := by
    rw [Nat.mul_assoc, twoTo_binaryExponent, ← Nat.mul_assoc, isEnd]
  have same : (quarters * twoTo number.binaryExponent.toNat : ℚ) =
      2 * sum * number.denominator / unitsInOne := by
    rw [eq_div_iff unitsInOne_pos.ne', unitsInOne]
    exact_mod_cast shifted
  rw [scaleFactor]
  push_cast
  rw [same]
  ring

/-- A quotient is read back as a number other than zero exactly when its size
is rounded to it. -/
theorem readsBack_iff (nonzero : number.rank ≠ 0) (positive : 0 < denominator) :
    number.readsBack numerator denominator = true ↔
      RoundsTo (numerator / denominator * unitsInOne) number.rank := by
  have factorPositive := number.scaleFactor_pos positive
  have value := number.scaled_value numerator positive
  have lower := scaled_end (lower_mul_gap nonzero) denominator
  have upper := scaled_end number.upper_mul_gap denominator
  rw [Nat.cast_add] at lower upper
  rw [readsBack, RoundsTo, significand_mod_two]
  split
  · rw [decide_eq_true_eq, ← Nat.cast_le (α := ℚ), ← Nat.cast_le (α := ℚ),
      value, lower, upper, mul_le_mul_iff_right₀ factorPositive,
      mul_le_mul_iff_right₀ factorPositive]
  · rw [decide_eq_true_eq, ← Nat.cast_lt (α := ℚ), ← Nat.cast_lt (α := ℚ),
      value, lower, upper, mul_lt_mul_iff_right₀ factorPositive,
      mul_lt_mul_iff_right₀ factorPositive]

end Comparison

end Binary64

end TextWorld.Number
