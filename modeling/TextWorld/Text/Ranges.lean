/-!
# Sets of characters given by ranges

A property of characters that the Unicode standard lists, rather than computes,
is held as a list of closed ranges of code points.  Membership is decided by
going through the list, so a fact about every member of a set follows from the
finitely many ranges that make it up.
-/

namespace TextWorld.Text

/-- Closed ranges of code points, each given by its first and
its last member. -/
abbrev CharacterRanges := List (Nat × Nat)

/-- Whether one of the ranges holds the character. -/
def CharacterRanges.holds (ranges : CharacterRanges)
    (character : Char) : Bool :=
  ranges.any fun range => range.1 ≤ character.toNat && character.toNat ≤ range.2

/-- A character that a table holds lies between the ends of one
of its ranges. -/
theorem CharacterRanges.holds_eq_true_iff
    (ranges : CharacterRanges)
    (character : Char) :
    ranges.holds character = true ↔
      ∃ range ∈ ranges,
        range.1 ≤ character.toNat ∧ character.toNat ≤ range.2 := by
  simp [CharacterRanges.holds]

end TextWorld.Text
