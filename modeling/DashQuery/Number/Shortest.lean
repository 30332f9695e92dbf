import DashQuery.Number.Double

/-! # The fewest digits that read back

Every double is the nearest one to a whole interval of reals.  Its shortest
decimal is found by trying one digit, two digits, … up to seventeen: on each of
these decimal grids only the two neighbours of the value can lie in the interval.
The first grid with a hit wins; of two hits the nearer one, and `Tie` says which
one of two equally near. -/

namespace DashQuery

/-- The decimal `digits * 10 ^ exponent`. -/
structure Decimal where
  digits : Nat
  exponent : Int
deriving DecidableEq

namespace Decimal

/-- Which of two equally near decimals is taken. -/
inductive Tie where
  | up
  | toEven
deriving DecidableEq

/-- The number of decimal digits of `n`, at least one. -/
def digitCount (n : Nat) : Nat := (Nat.toDigits 10 n).length

/-- The exponent of the leading digit of `num / den`, which is positive. -/
def leadingExponent (num den : Nat) : Int :=
  if den ≤ num then (digitCount (num / den) : Int) - 1
  else
    let n := digitCount (den / num)
    if den ≤ num * Nat.pow 10 (n - 1) then 1 - (n : Int) else -(n : Int)

/-- `num / den` in units of `10 ^ s`, as a numerator over a denominator. -/
def inUnits (num den : Nat) (s : Int) : Nat × Nat :=
  if 0 ≤ s then (num, den * Nat.pow 10 s.toNat) else (num * Nat.pow 10 (-s).toNat, den)

/-- The bounds of a value's interval and the value itself, in quarters of the last bit.  Below a
power of two the grid of doubles is twice as fine. -/
structure Interval where
  low : Nat
  value : Nat
  high : Nat
  closed : Bool

/-- The reals that round to the magnitude. -/
def intervalOf (d : Dyadic) : Interval :=
  let m := d.mantissa
  let gap := if m = Double.hiddenBit ∧ d.exponent > -1074 then 1 else 2
  ⟨4 * m - gap, 4 * m, 4 * m + 2, m % 2 == 0⟩

/-- Whether the grid point `n` lies in the interval; `unit` is a quarter of the last bit measured
in grid units, as a numerator over a denominator. -/
def Interval.contains (i : Interval) (unit : Nat × Nat) (n : Nat) : Bool :=
  let x := n * unit.2
  let lo := i.low * unit.1
  let hi := i.high * unit.1
  if i.closed then lo ≤ x && x ≤ hi else lo < x && x < hi

/-- The hit of the grid of units `10 ^ s`, if it has one. -/
def onGrid? (tie : Tie) (i : Interval) (quarter : Nat × Nat) (s : Int) : Option Decimal :=
  let unit := inUnits quarter.1 quarter.2 s
  let below := i.value * unit.1 / unit.2
  let rest := i.value * unit.1 % unit.2
  match i.contains unit below, i.contains unit (below + 1) with
  | true, true =>
    let takesUpper := 2 * rest > unit.2 ||
      (2 * rest == unit.2 && (tie == .up || below % 2 == 1))
    some ⟨if takesUpper then below + 1 else below, s⟩
  | true, false => some ⟨below, s⟩
  | false, true => some ⟨below + 1, s⟩
  | false, false => none

/-- Without the zeros at the end of its digits. -/
def strip (d : Decimal) : Decimal :=
  if h : d.digits ≠ 0 ∧ d.digits % 10 = 0 then strip ⟨d.digits / 10, d.exponent + 1⟩ else d
termination_by d.digits
decreasing_by exact Nat.div_lt_self (Nat.pos_of_ne_zero h.1) (by decide)

/-- The shortest decimal that reads back as the magnitude. -/
def shortest (tie : Tie) (d : Dyadic) : Decimal :=
  if d.mantissa = 0 then ⟨0, 0⟩
  else
    let i := intervalOf d
    let quarter := Dyadic.ratio ⟨1, d.exponent - 2⟩
    let top := leadingExponent (i.value * quarter.1) quarter.2
    match (List.range 17).findSome? fun (k : Nat) => onGrid? tie i quarter (top - (k : Int)) with
    | some hit => hit.strip
    | none => ⟨0, 0⟩

/-- The exponent of the leading digit. -/
def scientificExponent (d : Decimal) : Int := d.exponent + digitCount d.digits - 1

end Decimal

/-- How a double is written: which exponents of the leading digit are written positionally, and
which of two equally near decimals is taken. -/
structure FloatLayout where
  minPositional : Int
  maxPositional : Int
  tie : Decimal.Tie

namespace FloatLayout

/-- Digits with a point after `whole` of them, zeros filling up on either side. -/
def positional (d : Decimal) : String :=
  let cs := Nat.toDigits 10 d.digits
  if 0 ≤ d.exponent then String.ofList (cs ++ List.replicate d.exponent.toNat '0') ++ ".0"
  else
    let places := (-d.exponent).toNat
    let padded := List.replicate (places + 1 - cs.length) '0' ++ cs
    let whole := padded.length - places
    String.ofList (padded.take whole) ++ "." ++ String.ofList (padded.drop whole)

/-- One digit, the others after a point, then the exponent. -/
def scientific (d : Decimal) : String :=
  let exponent := "e" ++ toString d.scientificExponent
  match Nat.toDigits 10 d.digits with
  | [] => exponent
  | [c] => String.singleton c ++ exponent
  | c :: cs => String.singleton c ++ "." ++ String.ofList cs ++ exponent

/-- The text of a finite double. -/
def write (layout : FloatLayout) (x : Double) : String :=
  let d := Decimal.shortest layout.tie x.magnitude
  let body :=
    if layout.minPositional ≤ d.scientificExponent && d.scientificExponent ≤ layout.maxPositional
    then positional d else scientific d
  if x.isNegative then "-" ++ body else body

end FloatLayout

end DashQuery
