/-! # Double-precision numbers by their bits

A double is its 64 bits, so equality of doubles is equality of bits and every
operation here is exact arithmetic on natural numbers followed by one rounding.
`Dyadic` is the value of a finite magnitude, `Format.round` the rounding to the
nearest value of a binary format, a tie going to the even neighbour. -/

namespace DashQuery

/-- An IEEE-754 double, by its bits. -/
structure Double where
  /-- Sign, 11 bits of exponent, 52 bits of fraction. -/
  bits : UInt64
deriving DecidableEq

/-- The magnitude `mantissa * 2 ^ exponent`. -/
structure Dyadic where
  mantissa : Nat
  exponent : Int
deriving DecidableEq

namespace Dyadic

/-- The magnitude as a numerator over a denominator. -/
def ratio (d : Dyadic) : Nat × Nat :=
  if 0 ≤ d.exponent then (d.mantissa * Nat.pow 2 d.exponent.toNat, 1)
  else (d.mantissa, Nat.pow 2 (-d.exponent).toNat)

/-- Whether `a` is below `b`. -/
def lt (a b : Dyadic) : Bool := a.ratio.1 * b.ratio.2 < b.ratio.1 * a.ratio.2

end Dyadic

/-- The quotient `n / d` to the nearest integer, a tie going to the even one. -/
def roundHalfEven (n d : Nat) : Nat :=
  if 2 * (n % d) > d || (2 * (n % d) == d && n / d % 2 == 1) then n / d + 1 else n / d

/-- A binary format: how many significant bits, and the exponents of the last one. -/
structure Format where
  precision : Nat
  minExponent : Int
  maxExponent : Int

namespace Format

/-- Binary64: 53 significant bits. -/
def double : Format := ⟨53, -1074, 971⟩

/-- Binary32: 24 significant bits. -/
def single : Format := ⟨24, -149, 104⟩

/-- `num / den` in units of `2 ^ e`, as a numerator over a denominator. -/
def inUnits (num den : Nat) (e : Int) : Nat × Nat :=
  if 0 ≤ e then (num, den * Nat.pow 2 e.toNat) else (num * Nat.pow 2 (-e).toNat, den)

/-- The exponent of the last bit kept of `num / den`: as low as the precision allows, and not
below the format's least. -/
def unitExponent (f : Format) (num den : Nat) : Int :=
  let low : Int := (Nat.log2 num : Int) - Nat.log2 den - f.precision
  let scaled := inUnits num den low
  max f.minExponent (if scaled.1 / scaled.2 ≥ Nat.pow 2 f.precision then low + 1 else low)

/-- The value of the format nearest to `num / den`; `none` if that lies beyond the largest. -/
def round (f : Format) (num den : Nat) : Option Dyadic :=
  let e := f.unitExponent num den
  let scaled := inUnits num den e
  let m := roundHalfEven scaled.1 scaled.2
  let d : Dyadic :=
    if m = Nat.pow 2 f.precision then ⟨Nat.pow 2 (f.precision - 1), e + 1⟩ else ⟨m, e⟩
  if d.exponent > f.maxExponent then none else some d

end Format

namespace Double

/-- The leading bit of 53, which the fraction leaves unwritten. -/
def hiddenBit : Nat := 0x10000000000000

/-- Whether the sign bit is set. -/
def isNegative (x : Double) : Bool := x.bits >>> 63 == 1

/-- The biased exponent. -/
def exponentField (x : Double) : Nat := ((x.bits >>> 52) &&& 0x7FF).toNat

/-- The 52 fraction bits. -/
def fraction (x : Double) : Nat := (x.bits &&& 0xFFFFFFFFFFFFF).toNat

/-- Neither an infinity nor a NaN. -/
def isFinite (x : Double) : Bool := x.exponentField != 0x7FF

/-- The magnitude of a finite double. -/
def magnitude (x : Double) : Dyadic :=
  if x.exponentField = 0 then ⟨x.fraction, -1074⟩
  else ⟨hiddenBit + x.fraction, (x.exponentField : Int) - 1075⟩

/-- The double of a sign and a magnitude that the format holds: 53 bits with an exponent in
range, or fewer at the least exponent. -/
def ofDyadic (negative : Bool) (d : Dyadic) : Double :=
  let sign : UInt64 := if negative then 0x8000000000000000 else 0
  if d.mantissa < hiddenBit then ⟨sign ||| d.mantissa.toUInt64⟩
  else
    ⟨sign ||| ((d.exponent + 1075).toNat.toUInt64 <<< 52) ||| (d.mantissa - hiddenBit).toUInt64⟩

/-- Positive or negative infinity. -/
def infinity (negative : Bool) : Double :=
  ⟨if negative then 0xFFF0000000000000 else 0x7FF0000000000000⟩

/-- The double nearest to a ratio, an infinity beyond the largest finite one. -/
def ofRatio (negative : Bool) (num den : Nat) : Double :=
  match Format.double.round num den with
  | some d => ofDyadic negative d
  | none => infinity negative

/-- The double nearest to a natural number. -/
def ofNat (n : Nat) : Double := ofRatio false n 1

/-- The double that a trip through single precision leaves of `x`.  Infinities and NaNs keep
their class. -/
def viaSingle (x : Double) : Double :=
  if x.isFinite then
    match Format.single.round x.magnitude.ratio.1 x.magnitude.ratio.2 with
    | some d => ofRatio x.isNegative d.ratio.1 d.ratio.2
    | none => infinity x.isNegative
  else x

/-- The whole number that a double is, if it is one. -/
def toInt? (x : Double) : Option Int :=
  let r := x.magnitude.ratio
  if x.isFinite && r.1 % r.2 == 0 then
    some (if x.isNegative then -((r.1 / r.2 : Nat) : Int) else ((r.1 / r.2 : Nat) : Int))
  else none

/-- Whether `a` is below `b`; both finite, and the two zeros are equal. -/
def lt (a b : Double) : Bool :=
  match a.isNegative, b.isNegative with
  | false, false => a.magnitude.lt b.magnitude
  | true, true => b.magnitude.lt a.magnitude
  | true, false => a.magnitude.mantissa != 0 || b.magnitude.mantissa != 0
  | false, true => false

end Double

end DashQuery
