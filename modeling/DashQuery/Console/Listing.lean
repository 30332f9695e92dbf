import DashQuery.BoundText
import DashQuery.Console.Visible
import DashQuery.Number.Shortest

/-! # Parameters as the console lists them

Each parameter is listed by its type and value, so that the text `5` and the
number `5` look different.  Strings are quoted, and a character without a shape of
its own is escaped; doubles always show a point or an exponent. -/

namespace DashQuery

/-- How doubles are listed: positionally where the leading digit's exponent is from -4 to 15. -/
def listingLayout : FloatLayout := ⟨-4, 15, .up⟩

/-- A character inside a listed string. -/
def listChar (c : Char) : List Char :=
  if c == '\x22' then ['\\', '\x22']
  else if c == '\\' then ['\\', '\\']
  else if c == '\t' then ['\\', 't']
  else if c == '\n' then ['\\', 'n']
  else if c == '\r' then ['\\', 'r']
  else if c == '\x00' then ['\\', '0']
  else if isVisible c then [c]
  else "\\u\x7b".toList ++ Nat.toDigits 16 c.toNat ++ ['\x7d']

/-- A string in quotes. -/
def listString (s : String) : String := "\"" ++ String.ofList (s.toList.flatMap listChar) ++ "\""

/-- A double; what is not finite is listed by name. -/
def listDouble (x : Double) : String :=
  if x.isFinite then listingLayout.write x
  else if x.fraction ≠ 0 then "NaN"
  else if x.isNegative then "-inf"
  else "inf"

namespace Param

/-- A parameter with its type. -/
def listing : Param → String
  | bool b => "Bool(Some(" ++ (if b then "true" else "false") ++ "))"
  | int n => "BigInt(Some(" ++ toString n ++ "))"
  | unsigned n => "BigUnsigned(Some(" ++ toString n ++ "))"
  | double x => "Double(Some(" ++ listDouble x ++ "))"
  | text s => "String(Some(" ++ listString s ++ "))"

/-- Parameters in order. -/
def listings (params : List Param) : String :=
  "[" ++ ", ".intercalate (params.map listing) ++ "]"

end Param

end DashQuery
