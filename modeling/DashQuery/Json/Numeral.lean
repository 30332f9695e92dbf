import DashQuery.Json.Value
import DashQuery.Number.Word

/-! # Numbers in JSON text

A numeral is a sign, digits, perhaps digits after a point, perhaps an exponent.
Without point and exponent it is a whole number if it fits 64 bits, signed or
unsigned.  Every other numeral is a double: the leading digits that fit an
unsigned 64-bit significand count, further ones only move the point, and the
significand is rounded once as an integer and once more when it is scaled by its
power of ten.  A magnitude beyond the largest double is refused; one below the
smallest is zero. -/

namespace DashQuery.Json

/-- The parts of a number as written. -/
structure Numeral where
  negative : Bool
  whole : List Nat
  fraction : Option (List Nat)
  exponent : Option Int
deriving DecidableEq

namespace Numeral

/-- The significand read so far, the power of ten it is to be scaled by, and whether a digit did
not fit any more. -/
structure Significand where
  value : Nat
  scale : Int
  full : Bool

/-- Adds a digit before the point; one that does not fit moves the point. -/
def Significand.pushWhole (s : Significand) (digit : Nat) : Significand :=
  if s.full || s.value * 10 + digit ≥ wordBound then { s with scale := s.scale + 1, full := true }
  else { s with value := s.value * 10 + digit }

/-- Adds a digit after the point; one that does not fit is dropped. -/
def Significand.pushFraction (s : Significand) (digit : Nat) : Significand :=
  if s.full || s.value * 10 + digit ≥ wordBound then { s with full := true }
  else { s with value := s.value * 10 + digit, scale := s.scale - 1 }

/-- The significand of all digits, scaled as the point says. -/
def significand (n : Numeral) : Significand :=
  let whole := n.whole.foldl Significand.pushWhole ⟨0, 0, false⟩
  (n.fraction.getD []).foldl Significand.pushFraction { whole with full := false }

/-- The double nearest to `d / Nat.pow 10 places`, in steps of at most 308 places. -/
def divide (d : Dyadic) (places : Nat) : Option Dyadic :=
  if d.mantissa = 0 then some d
  else if places ≤ 308 then do
    let power ← Format.double.round (Nat.pow 10 places) 1
    Format.double.round (d.ratio.1 * power.ratio.2) (d.ratio.2 * power.ratio.1)
  else do
    let power ← Format.double.round (Nat.pow 10 308) 1
    let next ← Format.double.round (d.ratio.1 * power.ratio.2) (d.ratio.2 * power.ratio.1)
    divide next (places - 308)
termination_by places

/-- The double nearest to `d * Nat.pow 10 places`; `none` beyond the largest. -/
def multiply (d : Dyadic) (places : Nat) : Option Dyadic :=
  if d.mantissa = 0 then some d
  else if places ≤ 308 then do
    let power ← Format.double.round (Nat.pow 10 places) 1
    Format.double.round (d.ratio.1 * power.ratio.1) (d.ratio.2 * power.ratio.2)
  else none

/-- The double of a significand with its scale. -/
def scaled (negative : Bool) (value : Nat) (scale : Int) : Option Double := do
  let base ← Format.double.round value 1
  let d ← if scale < 0 then divide base (-scale).toNat else multiply base scale.toNat
  return Double.ofDyadic negative d

/-- The number of a digit sequence. -/
def ofDigits (digits : List Nat) : Nat := digits.foldl (fun n d => n * 10 + d) 0

/-- The value of a numeral. -/
def toJson? (n : Numeral) : Option Json :=
  let asDouble :=
    let s := n.significand
    (scaled n.negative s.value (s.scale + n.exponent.getD 0)).map Json.double
  match n.fraction, n.exponent with
  | none, none =>
    let value := ofDigits n.whole
    if !n.negative && value < wordBound then some (.int value)
    else if n.negative && 0 < value && value ≤ signedBound then some (.int (-value))
    else asDouble
  | _, _ => asDouble

end Numeral

end DashQuery.Json
