/-! # The bounds of 64-bit integers

Whole numbers are bound, stored and counted in 64 bits, with a sign where they
fit so and without one otherwise. -/

namespace DashQuery

/-- What a 64-bit integer with sign stays below. -/
def signedBound : Nat := 0x8000000000000000

/-- What a 64-bit integer without sign stays below. -/
def wordBound : Nat := 0x10000000000000000

/-- Every 64-bit word is below its bound. -/
theorem toNat_lt_wordBound (n : UInt64) : n.toNat < wordBound := n.toNat_lt

end DashQuery
