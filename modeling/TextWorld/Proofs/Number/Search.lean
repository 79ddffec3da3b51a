import TextWorld.Proofs.Number.Interval

/-!
# The shortest decimal is read back

The search for the shortest decimal ends, since seventeen digits are always
enough: decimals of so many digits lie closer together than the numbers.  What
is found is a decimal whose size is rounded to the number.
-/

namespace TextWorld.Number

open TextWorld.Text

theorem tenTo_pos (exponent : Nat) : 0 < tenTo exponent :=
  Nat.pow_pos (by decide)

theorem cast_tenTo (exponent : Nat) : (tenTo exponent : ℚ) = 10 ^ exponent := by
  rw [tenTo, Nat.pow_eq, Nat.cast_pow, Nat.cast_ofNat]

/-- A power of ten as a quotient of natural numbers. -/
theorem tenTo_div_tenTo (exponent : Int) :
    (tenTo exponent.toNat / tenTo (-exponent).toNat : ℚ) = 10 ^ exponent := by
  rw [cast_tenTo, cast_tenTo]
  obtain ⟨size, rfl | rfl⟩ := exponent.eq_nat_or_neg
  · rw [Int.toNat_natCast, Int.toNat_neg_natCast, pow_zero,
      div_one, zpow_natCast]
  · rw [neg_neg, Int.toNat_natCast, Int.toNat_neg_natCast, pow_zero, zpow_neg,
      zpow_natCast, one_div]

/-- The size of a decimal. -/
def Decimal.size (number : Decimal) : ℚ :=
  number.coefficient * 10 ^ number.exponent

theorem Decimal.size_eq (number : Decimal) :
    ((number.coefficient * tenTo number.exponent.toNat : ℕ) /
        (tenTo (-number.exponent).toNat : ℕ) : ℚ) =
      number.size := by
  rw [size, ← tenTo_div_tenTo, Nat.cast_mul, mul_div_assoc]

/-- Moving zeros from the coefficient to the exponent does not
change the size. -/
theorem Decimal.size_withoutTrailingZeros (number : Decimal) (limit : Nat) :
    (number.withoutTrailingZeros limit).size = number.size := by
  induction limit generalizing number with
  | zero => rfl
  | succ limit inductive_step =>
      rw [withoutTrailingZeros]
      split
      · next divides =>
          rw [inductive_step, size, size, zpow_add₀ (by norm_num)]
          have parted : number.coefficient = 10 * (number.coefficient / 10) :=
            (Nat.mul_div_cancel' (Nat.dvd_of_mod_eq_zero divides.1)).symm
          have partedCast : (number.coefficient : ℚ) =
              10 * (number.coefficient / 10 : ℕ) := by
            exact_mod_cast parted
          rw [partedCast]
          ring
      · rfl

/-- A number other than zero is no less than the power of ten of
its leading digit. -/
theorem pow_length_decimalDigits_le {number : Nat} (positive : 0 < number) :
    10 ^ ((decimalDigits number).length - 1) ≤ number := by
  rcases Nat.eq_zero_or_pos ((decimalDigits number).length - 1) with
    single | more
  · rw [single]
    exact positive
  · rw [← Nat.not_lt, ← Nat.length_toDigits_le_iff (by decide) more,
      ← decimalDigits]
    omega

theorem lt_pow_length_decimalDigits (number : Nat) :
    number < 10 ^ (decimalDigits number).length :=
  (Nat.length_toDigits_le_iff (by decide)
    (List.length_pos_iff.mpr (decimalDigits_ne_nil number))).mp le_rfl

/-- The leading digit of a quotient stands for no more than the quotient. -/
theorem zpow_decimalMagnitude_le
    {numerator denominator : Nat}
    (numeratorPositive : 0 < numerator)
    (denominatorPositive : 0 < denominator) :
    (10 : ℚ) ^ decimalMagnitude numerator denominator ≤
      numerator / denominator := by
  have positive : (0 : ℚ) < denominator := Nat.cast_pos.mpr denominatorPositive
  rw [decimalMagnitude]
  split
  · next atLeastOne =>
      have quotientPositive := Nat.div_pos atLeastOne denominatorPositive
      have exponent :
          ((decimalDigits (numerator / denominator)).length - 1 : Int) =
          ((decimalDigits (numerator / denominator)).length - 1 : Nat) := by
        have := List.length_pos_iff.mpr
          (decimalDigits_ne_nil (numerator / denominator))
        omega
      rw [exponent, zpow_natCast, le_div_iff₀ positive]
      exact_mod_cast (Nat.le_div_iff_mul_le denominatorPositive).mp
        (pow_length_decimalDigits_le quotientPositive)
  · have bound := (Nat.div_lt_iff_lt_mul numeratorPositive).mp
      (lt_pow_length_decimalDigits (denominator / numerator))
    rw [zpow_neg, zpow_natCast, le_div_iff₀ positive,
      inv_mul_le_iff₀ (by positivity)]
    exact_mod_cast bound.le

namespace Binary64

variable {number : Binary64} {tie : Tie} {digits rank : Nat} {found : Decimal}

/-- What is found among the decimals of some length is read back. -/
theorem readsBack_of_decimalOfDigits
    (finds : number.decimalOfDigits tie digits = some found) :
    number.readsBack (found.coefficient * tenTo found.exponent.toNat)
      (tenTo (-found.exponent).toNat) = true := by
  unfold decimalOfDigits at finds
  simp only at finds
  split at finds
  · next below =>
      cases finds
      exact (Bool.and_eq_true_iff.mp below).1
  · split at finds
    · next above =>
        cases finds
        exact above
    · cases finds

/-- A decimal that is found is rounded to the number. -/
theorem roundsTo_of_decimalOfDigits
    (nonzero : number.rank ≠ 0)
    (finds : number.decimalOfDigits tie digits = some found) :
    RoundsTo (found.size * unitsInOne) number.rank := by
  have rounds := (readsBack_iff nonzero (tenTo_pos _)).mp
    (readsBack_of_decimalOfDigits finds)
  rwa [found.size_eq] at rounds

/-- Of two neighbours at a distance below the sixteenth digit one is rounded to
the number between them. -/
theorem roundsTo_or_roundsTo_succ
    {spacing : ℚ}
    {below : Nat}
    (nonzero : rank ≠ 0)
    (fine : spacing * 10 ^ 16 ≤ units rank)
    (notAbove : below * spacing ≤ units rank)
    (above : units rank < (below + 1) * spacing) :
    RoundsTo (below * spacing) rank ∨
      RoundsTo ((below + 1) * spacing) rank := by
  obtain ⟨before, rfl⟩ := Nat.exists_eq_add_one_of_ne_zero nonzero
  have positive : (0 : ℚ) < gap before := Nat.cast_pos.mpr (gap_pos before)
  have wider : (gap before : ℚ) ≤ gap (before + 1) :=
    Nat.cast_le.mpr (gap_le_gap_succ before)
  have short : (units (before + 1) : ℚ) ≤ 2 ^ 53 * gap before := by
    rw [← cast_twoTo]
    exact_mod_cast units_succ_le before
  have step : (units (before + 1) : ℚ) = units before + gap before := by
    exact_mod_cast units_succ before
  have stepAbove :
      (units (before + 1 + 1) : ℚ) = units (before + 1) + gap (before + 1) := by
    exact_mod_cast units_succ (before + 1)
  by_contra neither
  rw [not_or] at neither
  -- otherwise the neighbours are as far apart as the ends of the interval
  have belowLower :
      below * spacing ≤ (units (before + 1 - 1) + units (before + 1)) / 2 := by
    by_contra inside
    exact neither.1 (roundsTo_of_inside (not_le.mp inside) (by linarith))
  have aboveUpper : (units (before + 1) + units (before + 1 + 1)) / 2 ≤
      (below + 1) * spacing := by
    by_contra inside
    exact neither.2 (roundsTo_of_inside (by rw [Nat.add_sub_cancel]; linarith)
      (not_le.mp inside))
  rw [Nat.add_sub_cancel] at belowLower
  have apart : gap before ≤ spacing := by linarith
  norm_num at fine short
  linarith

theorem numerator_pos (nonzero : number.rank ≠ 0) : 0 < number.numerator := by
  have positive : 0 < units number.rank := by
    have before := units_strictMono (Nat.pos_of_ne_zero nonzero)
    exact Nat.lt_of_le_of_lt (Nat.zero_le _) before
  rw [← significand_mul_gap] at positive
  exact Nat.mul_pos (Nat.pos_of_mul_pos_right positive) (twoTo_pos _)

/-- The multiples of a power of ten next to a quotient. -/
theorem multiples_around
    {denominator : Nat}
    (positive : 0 < denominator)
    (numerator : Nat)
    (exponent : Int) :
    let below :=
      numerator * tenTo (-exponent).toNat / (denominator * tenTo exponent.toNat)
    (below * 10 ^ exponent : ℚ) ≤ numerator / denominator ∧
      (numerator / denominator : ℚ) < (below + 1) * 10 ^ exponent := by
  intro below
  have denominatorPositive : (0 : ℚ) < denominator := Nat.cast_pos.mpr positive
  have downPositive : (0 : ℚ) < tenTo (-exponent).toNat :=
    Nat.cast_pos.mpr (tenTo_pos _)
  have scalePositive : 0 < denominator * tenTo exponent.toNat :=
    Nat.mul_pos positive (tenTo_pos _)
  rw [← tenTo_div_tenTo, mul_div_assoc', mul_div_assoc',
    div_le_div_iff₀ downPositive denominatorPositive,
    div_lt_div_iff₀ denominatorPositive downPositive]
  constructor
  · have bound : below * (denominator * tenTo exponent.toNat) ≤
        numerator * tenTo (-exponent).toNat := Nat.div_mul_le_self _ _
    have cast : (below * (denominator * tenTo exponent.toNat) : ℚ) ≤
        numerator * tenTo (-exponent).toNat := by exact_mod_cast bound
    linarith
  · have bound : numerator * tenTo (-exponent).toNat <
        (below + 1) * (denominator * tenTo exponent.toNat) :=
      (Nat.div_lt_iff_lt_mul scalePositive).mp (Nat.lt_succ_self below)
    have cast : (numerator * tenTo (-exponent).toNat : ℚ) <
        (below + 1) * (denominator * tenTo exponent.toNat) := by
          exact_mod_cast bound
    linarith

/-- A multiple of a power of ten that is rounded to the number is read back. -/
theorem readsBack_of_roundsTo
    {coefficient : Nat}
    {exponent : Int}
    (nonzero : number.rank ≠ 0)
    (rounds :
      RoundsTo (coefficient * (10 ^ exponent * unitsInOne)) number.rank) :
    number.readsBack (coefficient * tenTo exponent.toNat)
      (tenTo (-exponent).toNat) = true := by
  rw [readsBack_iff nonzero (tenTo_pos _), Nat.cast_mul, mul_div_assoc,
    tenTo_div_tenTo, mul_assoc]
  exact rounds

/-- Of two neighbours, one of which fits, one is taken. -/
theorem isSome_of_fits
    {below above : Decimal}
    {belowFits aboveFits belowIsChosen : Bool}
    (fits : belowFits = true ∨ aboveFits = true) :
    (if belowFits && (belowIsChosen || !aboveFits) then
      some below
    else if aboveFits then
      some above
    else
      none).isSome = true := by
  cases aboveFits with
  | true => split <;> rfl
  | false =>
      have belowFits := fits.resolve_right Bool.false_ne_true
      rw [belowFits, Bool.not_false, Bool.or_true]
      rfl

/-- Among the decimals of seventeen digits one is read back. -/
theorem isSome_decimalOfDigits (nonzero : number.rank ≠ 0) (tie : Tie) :
    (number.decimalOfDigits tie 17).isSome = true := by
  have numeratorPositive := numerator_pos nonzero
  have denominatorPositive : 0 < number.denominator := twoTo_pos _
  let exponent : Int :=
    decimalMagnitude number.numerator number.denominator - (17 : Nat) + 1
  let below : Nat := number.numerator * tenTo (-exponent).toNat /
    (number.denominator * tenTo exponent.toNat)
  have fits :
      number.readsBack (below * tenTo exponent.toNat)
          (tenTo (-exponent).toNat) = true ∨
        number.readsBack ((below + 1) * tenTo exponent.toNat)
          (tenTo (-exponent).toNat) = true := by
    obtain ⟨notAbove, above⟩ :=
      multiples_around denominatorPositive number.numerator exponent
    have fine : (10 : ℚ) ^ exponent * 10 ^ 16 ≤
        number.numerator / number.denominator := by
      have leading :=
        zpow_decimalMagnitude_le numeratorPositive denominatorPositive
      have sixteen : exponent + (16 : Nat) =
          decimalMagnitude number.numerator number.denominator := by
        show decimalMagnitude _ _ - (17 : Nat) + 1 + (16 : Nat) = _
        omega
      rwa [← sixteen, zpow_add₀ (by norm_num), zpow_natCast] at leading
    have scaled := mul_le_mul_of_nonneg_right notAbove unitsInOne_pos.le
    have scaledAbove := mul_lt_mul_of_pos_right above unitsInOne_pos
    have scaledFine := mul_le_mul_of_nonneg_right fine unitsInOne_pos.le
    rw [numerator_div_denominator] at scaled scaledAbove scaledFine
    rw [mul_assoc] at scaled scaledAbove
    rw [mul_right_comm] at scaledFine
    rcases roundsTo_or_roundsTo_succ nonzero scaledFine scaled scaledAbove with
      rounds | rounds
    · exact .inl (readsBack_of_roundsTo nonzero rounds)
    · refine .inr (readsBack_of_roundsTo nonzero ?_)
      rw [Nat.cast_succ]
      exact rounds
  exact isSome_of_fits fits

/-- The shortest decimal of a number is rounded to it. -/
theorem shortestDecimal_roundsTo (nonzero : number.rank ≠ 0) (tie : Tie) :
    RoundsTo ((number.shortestDecimal tie).size * unitsInOne) number.rank := by
  rw [shortestDecimal]
  split
  · next found finds =>
      obtain ⟨shorter, -, finds⟩ := List.exists_of_findSome?_eq_some finds
      rw [Decimal.size_withoutTrailingZeros]
      exact roundsTo_of_decimalOfDigits nonzero finds
  · next none =>
      have nothing := List.findSome?_eq_none_iff.mp none 16 (by decide)
      have something := isSome_decimalOfDigits nonzero tie
      rw [nothing] at something
      cases something

end Binary64

end TextWorld.Number
