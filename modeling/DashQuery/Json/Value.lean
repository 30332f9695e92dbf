import DashQuery.Number.Double
import DashQuery.Ordered

/-! # JSON values

Whole numbers are kept apart from doubles, and the members of an object are kept
in the order and number in which they were written: a record refuses a repeated
field, a free-form object keeps the last of several.  `Json.settle` is that
second rule, and puts the keys in order. -/

namespace DashQuery

/-- A JSON value. -/
inductive Json where
  | null
  | bool (b : Bool)
  /-- A whole number written without point and exponent, within 64 bits. -/
  | int (n : Int)
  /-- Any other number. -/
  | double (x : Double)
  | str (s : String)
  | arr (items : List Json)
  /-- The members as written; a key may occur more than once. -/
  | obj (members : List (String × Json))

namespace Json

mutual

/-- The value with each object's keys in order and once, the last of several members staying. -/
def settle : Json → Json
  | arr items => arr (settleItems items)
  | obj members => obj (Ordered.ofList (settleMembers members))
  | null => null
  | bool b => bool b
  | int n => int n
  | double x => double x
  | str s => str s

/-- `settle` on every item. -/
def settleItems : List Json → List Json
  | [] => []
  | j :: js => settle j :: settleItems js

/-- `settle` on every member's value. -/
def settleMembers : List (String × Json) → List (String × Json)
  | [] => []
  | (k, v) :: ms => (k, settle v) :: settleMembers ms

end

/-- Items are settled one by one. -/
theorem settleItems_eq_map (js : List Json) : settleItems js = js.map settle := by
  induction js with
  | nil => rfl
  | cons j js ih => simp [settleItems, ih]

/-- Members are settled one by one, under their keys. -/
theorem settleMembers_eq_map (ms : List (String × Json)) :
    settleMembers ms = ms.map fun m => (m.1, m.2.settle) := by
  induction ms with
  | nil => rfl
  | cons m ms ih => obtain ⟨k, v⟩ := m; simp [settleMembers, ih]

/-- The value of the last member called `key`. -/
def member? (key : String) (members : List (String × Json)) : Option Json :=
  members.reverse.lookup key

/-- What kind of value this is, in words. -/
def describe : Json → String
  | null => "null"
  | bool _ => "a boolean"
  | int _ => "a number"
  | double _ => "a number"
  | str _ => "a string"
  | arr _ => "an array"
  | obj _ => "an object"

end Json

end DashQuery
