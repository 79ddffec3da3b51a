/-!
# Powers of two and of ten
-/

namespace TextWorld

/-- A power of two. -/
def twoTo (exponent : Nat) : Nat := Nat.pow 2 exponent

/-- A power of ten. -/
def tenTo (exponent : Nat) : Nat := Nat.pow 10 exponent

/-- A word of 64 bits is below its number of values. -/
theorem toNat_lt_twoTo (word : UInt64) : word.toNat < twoTo 64 :=
  word.toNat_lt

end TextWorld
