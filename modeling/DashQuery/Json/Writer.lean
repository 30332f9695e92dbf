import DashQuery.Json.Value
import DashQuery.Number.Shortest

/-! # Writing JSON text

Compact text: no blanks, each object's keys in order and once.  Only what must be
escaped in a string is escaped; a double is written with the fewest digits that
read back, positionally where the leading digit's exponent is from -5 to 15, and
what is not finite is written as `null`. -/

namespace DashQuery.Json

/-- How doubles are written in JSON. -/
def floatLayout : FloatLayout := ⟨-5, 15, .toEven⟩

namespace Writer

/-- A lowercase hexadecimal digit. -/
def hexDigit (n : Nat) : Char := (Nat.toDigits 16 n).headD '0'

/-- A character inside a string. -/
def escape (c : Char) : List Char :=
  if c == '\x22' then ['\\', '\x22']
  else if c == '\\' then ['\\', '\\']
  else if c == '\n' then ['\\', 'n']
  else if c == '\r' then ['\\', 'r']
  else if c == '\t' then ['\\', 't']
  else if c == '\x08' then ['\\', 'b']
  else if c == '\x0c' then ['\\', 'f']
  else if c.toNat < 0x20 then
    ['\\', 'u', '0', '0', hexDigit (c.toNat / 16), hexDigit (c.toNat % 16)]
  else [c]

/-- A string with its quotes. -/
def quoted (s : String) : String := "\"" ++ String.ofList (s.toList.flatMap escape) ++ "\""

/-- A number that is not whole. -/
def double (x : Double) : String := if x.isFinite then floatLayout.write x else "null"

mutual

/-- The text of a value, its objects' members as they are. -/
def text : Json → String
  | .null => "null"
  | .bool b => if b then "true" else "false"
  | .int n => toString n
  | .double x => double x
  | .str s => quoted s
  | .arr items => "[" ++ ",".intercalate (itemTexts items) ++ "]"
  | .obj members => "\x7b" ++ ",".intercalate (memberTexts members) ++ "\x7d"

/-- The texts of an array's items. -/
def itemTexts : List Json → List String
  | [] => []
  | j :: js => text j :: itemTexts js

/-- The texts of an object's members. -/
def memberTexts : List (String × Json) → List String
  | [] => []
  | (k, v) :: ms => (quoted k ++ ":" ++ text v) :: memberTexts ms

end

end Writer

/-- The compact text of a value. -/
def write (j : Json) : String := Writer.text j.settle

end DashQuery.Json
