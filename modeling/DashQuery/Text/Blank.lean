/-! # Blank characters

Blanks separate lexemes, may stand inside names, and are trimmed from console
input.  A blank is a character with the Unicode property `White_Space`, so the
set is larger than the ASCII one that core's `Char.isWhitespace` knows:

* `isBlank_lt_128`   among ASCII there are six: tab to carriage return, and space
-/

namespace DashQuery

/-- Whether `c` has the Unicode property `White_Space`. -/
def isBlank (c : Char) : Bool :=
  let n := c.toNat
  (0x09 ≤ n && n ≤ 0x0D) || n == 0x20 || n == 0x85 || n == 0xA0 || n == 0x1680 ||
    (0x2000 ≤ n && n ≤ 0x200A) || n == 0x2028 || n == 0x2029 || n == 0x202F ||
    n == 0x205F || n == 0x3000

/-- An ASCII character is blank exactly if it is one of tab to carriage return, or space. -/
theorem isBlank_lt_128 {c : Char} (h : c.toNat < 128) :
    isBlank c = true ↔ (9 ≤ c.toNat ∧ c.toNat ≤ 13) ∨ c.toNat = 32 := by
  simp only [isBlank, Bool.or_eq_true, Bool.and_eq_true, decide_eq_true_eq, beq_iff_eq]
  omega

/-- `cs` without its leading and trailing blanks. -/
def trimBlanks (cs : List Char) : List Char :=
  ((cs.dropWhile isBlank).reverse.dropWhile isBlank).reverse

/-- The line without its leading and trailing blanks. -/
def trimLine (line : String) : String := String.ofList (trimBlanks line.toList)

end DashQuery
