/-! # Sets of code points by runs

A property of characters usually holds for runs of neighbouring code points.  A
set of this kind is kept as the numbers at which its runs begin and, in turn, end;
membership is found by halving. -/

namespace DashQuery

/-- How many of an increasing array's entries from `low` to `high` on are at most `n`, added to
`low`, by halving the part in question. -/
def countUpTo (bounds : Array Nat) (n low high : Nat) : Nat :=
  if low < high then
    let middle := (low + high) / 2
    if bounds.getD middle 0 ≤ n then countUpTo bounds n (middle + 1) high
    else countUpTo bounds n low middle
  else low
termination_by high - low

/-- A set of code points, by the increasing numbers at which a run begins and, in turn, ends. -/
structure Runs where
  bounds : Array Nat

namespace Runs

/-- The set with the given bounds. -/
def ofBounds (bounds : List Nat) : Runs := ⟨bounds.toArray⟩

/-- A code point is in the set if an odd number of bounds are at most as large. -/
def contains (r : Runs) (n : Nat) : Bool := countUpTo r.bounds n 0 r.bounds.size % 2 == 1

end Runs

end DashQuery
