import DashQuery.BoundText
import DashQuery.Execution

/-! # Stored values

A cell holds one of five classes of value.  Binding a parameter gives a cell, and
a cell of a result gives a JSON value.  What is not a number is stored as null,
and an infinity, which JSON cannot write, is null in a result. -/

namespace DashQuery

/-- A stored value. -/
inductive Cell where
  | null
  | integer (n : Int)
  | real (x : Double)
  | text (s : String)
  | blob (bytes : List UInt8)
deriving DecidableEq

namespace Cell

/-- The cell of a double. -/
def ofDouble (x : Double) : Cell := if x.isFinite then .real x else .null

/-- The value in a result. -/
def toJson : Cell → Json
  | null => .null
  | integer n => .int n
  | real x => .double x
  | text s => .str s
  | blob bytes => .arr (bytes.map fun b => .int b.toNat)

/-- The cell of a JSON scalar; a truth value is stored as a number. -/
def ofJson? : Json → Option Cell
  | .null => some .null
  | .int n => some (.integer n)
  | .double x => some (.real x)
  | .str s => some (.text s)
  | .bool b => some (.integer (if b then 1 else 0))
  | .arr _ => none
  | .obj _ => none

/-- The double of a whole number. -/
def realOf (n : Int) : Double := Double.ofRatio (n < 0) n.natAbs 1

/-- The cell in a column of whole numbers, where a real without a fraction becomes one. -/
def asWhole : Cell → Cell
  | real x =>
    match x.toInt? with
    | some n => if n.natAbs < signedBound then integer n else real x
    | none => real x
  | c => c

/-- The cell in a column of reals.  A real without a fraction is kept as a whole number in
between, which takes the sign off a zero. -/
def asReal (c : Cell) : Cell :=
  match c.asWhole with
  | integer n => real (realOf n)
  | other => other

/-- The cell in a column of a kind. -/
def inColumn : ColumnKind → Cell → Cell
  | .integer, c => c.asWhole
  | .numeric, c => c.asWhole
  | .boolean, c => c.asWhole
  | .date, c => c.asWhole
  | .real, c => c.asReal
  | .text, c => c
  | .unknown, c => c

/-- The numeric value of an integer or a real. -/
def number? : Cell → Option Double
  | integer n => some (realOf n)
  | real x => some x
  | _ => none

/-- Null comes first, then numbers, then text, then bytes. -/
def rank : Cell → Nat
  | null => 0
  | integer _ => 1
  | real _ => 1
  | text _ => 2
  | blob _ => 3

/-- Whether `a` is sorted before `b`: by class, numbers by value, text by code points. -/
def lt (a b : Cell) : Bool :=
  if a.rank ≠ b.rank then a.rank < b.rank
  else
    match a, b with
    | integer m, integer n => m < n
    | text s, text t => s < t
    | blob xs, blob ys => xs.map UInt8.toNat < ys.map UInt8.toNat
    | _, _ =>
      match a.number?, b.number? with
      | some x, some y => x.lt y
      | _, _ => false

end Cell

/-- A value that a host program binds: a parameter, or one of the classes that the compiler never
produces. -/
inductive HostValue where
  | param (p : Param)
  /-- A number that passes through single precision. -/
  | single (x : Double)
  | bytes (contents : ByteArray)
  | null

namespace HostValue

/-- The cell that binding a value gives.  Unsigned numbers beyond the signed range become the
nearest double. -/
def toCell : HostValue → Cell
  | .param (.bool b) => .integer (if b then 1 else 0)
  | .param (.int n) => .integer n
  | .param (.unsigned n) => if n < signedBound then .integer n else .real (Double.ofNat n)
  | .param (.double x) => Cell.ofDouble x
  | .param (.text s) => .text s
  | .single x => Cell.ofDouble x.viaSingle
  | .bytes contents => .blob contents.toList
  | .null => .null

/-- The row that selecting `values` under `names` gives; there must be as many of either and at
least one, and of several equal names the last stays. -/
def selectRow (names : List String) (values : List HostValue) : Except QueryError Row :=
  if names.length = values.length ∧ names ≠ [] then
    .ok (Ordered.ofList (names.zip (values.map fun v => v.toCell.toJson)))
  else
    .error (.executionFailed "wrong number of parameters")

end HostValue

end DashQuery
