import DashQuery.Json.Value
import DashQuery.Number.Word

/-! # Statement text with its parameters

A `BoundText` is a piece of statement text together with the values that its
placeholders stand for: the n-th `?` of the text binds the n-th parameter.
Pieces are put together without a shared buffer, and every combinator keeps the
order of text and parameters the same, so no caller reasons about it:

* `andThen_empty`, `empty_andThen`  an empty piece leaves no trace
* `andThen_assoc`, `join_append`    pieces can be put together in any grouping -/

namespace DashQuery

/-- A value bound to a placeholder. -/
inductive Param where
  | bool (b : Bool)
  /-- A whole number that fits 64 bits with sign. -/
  | int (n : Int)
  /-- A whole number that fits 64 bits only without sign. -/
  | unsigned (n : Nat)
  | double (x : Double)
  | text (s : String)
deriving DecidableEq

/-- The parameter of a JSON scalar; null, arrays and objects have none. -/
def Param.ofJson? : Json → Option Param
  | .str s => some (.text s)
  | .bool b => some (.bool b)
  | .int n => some (if n < signedBound then .int n else .unsigned n.toNat)
  | .double x => some (.double x)
  | .null => none
  | .arr _ => none
  | .obj _ => none

/-- Statement text whose n-th placeholder binds the n-th parameter. -/
structure BoundText where
  text : String
  params : List Param
deriving DecidableEq

namespace BoundText

/-- No text, no parameter. -/
def empty : BoundText := ⟨"", []⟩

/-- Text without placeholders. -/
def raw (text : String) : BoundText := ⟨text, []⟩

/-- One placeholder. -/
def param (value : Param) : BoundText := ⟨"?", [value]⟩

/-- Placeholders for several values, in order. -/
def paramList (values : List Param) : BoundText :=
  ⟨", ".intercalate (List.replicate values.length "?"), values⟩

/-- Whether there is no text. -/
def isEmpty (b : BoundText) : Bool := b.text.isEmpty

/-- One piece after another with a space between them; an empty one is left out. -/
def andThen (a b : BoundText) : BoundText :=
  if a.isEmpty then b
  else if b.isEmpty then a
  else ⟨a.text ++ " " ++ b.text, a.params ++ b.params⟩

/-- The pieces that are not empty, with `separator` between them. -/
def join (separator : String) (parts : List BoundText) : BoundText :=
  let kept := parts.filter fun p => !p.isEmpty
  ⟨separator.intercalate (kept.map text), kept.flatMap params⟩

/-- The piece in parentheses; an empty one stays empty. -/
def parenthesized (b : BoundText) : BoundText :=
  if b.isEmpty then b else ⟨"(" ++ b.text ++ ")", b.params⟩

/-- How many placeholder characters the text holds. -/
def placeholders (b : BoundText) : Nat := b.text.toList.count '?'

/-! ## What the combinators do to text and parameters -/

/-- A piece is empty if its text is. -/
theorem isEmpty_iff {b : BoundText} : b.isEmpty = true ↔ b.text = "" := by
  simp [isEmpty]

/-- Nothing in front changes nothing. -/
@[simp] theorem empty_andThen (b : BoundText) : empty.andThen b = b := by
  simp [andThen, isEmpty, empty]

/-- Leaving out an empty piece loses nothing if an empty text has no parameter. -/
theorem andThen_empty {b : BoundText} (hb : b.text = "" → b.params = []) :
    b.andThen empty = b := by
  unfold andThen
  split
  · next h =>
    have htext := isEmpty_iff.mp h
    rw [empty, ← htext, ← hb htext]
  · rfl

/-- Whichever of the three pieces are empty, what is left is put together in order. -/
theorem andThen_assoc (a b c : BoundText) :
    (a.andThen b).andThen c = a.andThen (b.andThen c) := by
  by_cases ha : a.text = ""
  · simp [andThen, isEmpty, ha]
  by_cases hb : b.text = ""
  · simp [andThen, isEmpty, ha, hb]
  by_cases hc : c.text = ""
  · simp [andThen, isEmpty, ha, hb, hc]
  · simp [andThen, isEmpty, ha, hb, hc, String.append_assoc]

/-- Several pieces with text make a piece with text. -/
theorem isEmpty_join_iff {separator : String} {parts : List BoundText} :
    (join separator parts).isEmpty = true ↔ (parts.filter fun p => !p.isEmpty) = [] := by
  rw [isEmpty_iff, join]
  cases hkept : parts.filter fun p => !p.isEmpty with
  | nil => simp
  | cons p ps =>
    have hp : p.isEmpty = false := by
      have hmem : p ∈ parts.filter fun p => !p.isEmpty := by simp [hkept]
      simpa using (List.mem_filter.mp hmem).2
    -- the first piece that is kept has text already
    have htext : p.text ≠ "" := by simpa [isEmpty] using hp
    cases ps <;> simp [htext]

/-- Of two pieces without text nothing is joined, of one only that one. -/
theorem join_pair (separator : String) (a b : BoundText) :
    join separator [a, b] =
      if a.isEmpty then (if b.isEmpty then empty else b)
      else if b.isEmpty then a
      else ⟨a.text ++ separator ++ b.text, a.params ++ b.params⟩ := by
  cases ha : a.isEmpty <;> cases hb : b.isEmpty <;> simp [join, ha, hb, empty]

/-- Two pieces with a space between them are joined by a space. -/
theorem andThen_eq_join {a b : BoundText} (hb : b.text = "" → b.params = []) :
    a.andThen b = join " " [a, b] := by
  rw [join_pair, andThen]
  by_cases ha : a.isEmpty = true
  · rw [if_pos ha, if_pos ha]
    split
    · next h =>
      have htext := isEmpty_iff.mp h
      rw [empty, ← htext, ← hb htext]
    · rfl
  · rw [if_neg ha, if_neg ha]

/-- Placeholders for several values are single placeholders, joined. -/
theorem paramList_eq_join (values : List Param) :
    paramList values = join ", " (values.map param) := by
  have hkept : (values.map param).filter (fun p => !p.isEmpty) = values.map param := by
    rw [List.filter_eq_self]
    intro p hp
    obtain ⟨value, -, rfl⟩ := List.mem_map.mp hp
    rfl
  rw [join, hkept, List.map_map, List.flatMap_map, paramList]
  congr 1
  · rw [← List.map_const']
    rfl
  · exact (List.flatMap_singleton' values).symm

/-- Pieces can be joined part by part. -/
theorem join_append (separator : String) (xs ys : List BoundText) :
    join separator (xs ++ ys) = join separator [join separator xs, join separator ys] := by
  rw [join_pair]
  by_cases hx : (xs.filter fun p => !p.isEmpty) = []
  · -- nothing is kept of the first part, so the whole is what the second part is
    have hwhole : join separator (xs ++ ys) = join separator ys := by
      simp only [join, List.filter_append, hx, List.nil_append]
    rw [hwhole, if_pos (isEmpty_join_iff.mpr hx)]
    split
    · next hy => simp only [join, isEmpty_join_iff.mp hy, List.map_nil, List.flatMap_nil,
        String.intercalate_nil, empty]
    · rfl
  · rw [if_neg (mt isEmpty_join_iff.mp hx)]
    by_cases hy : (ys.filter fun p => !p.isEmpty) = []
    · rw [if_pos (isEmpty_join_iff.mpr hy)]
      simp only [join, List.filter_append, hy, List.append_nil]
    · rw [if_neg (mt isEmpty_join_iff.mp hy)]
      have htext := String.intercalate_append_of_ne_nil (s := separator)
        (mt (List.map_eq_nil_iff (f := text)).mp hx) (mt (List.map_eq_nil_iff (f := text)).mp hy)
      simp only [join, List.filter_append, List.map_append, List.flatMap_append, htext]

end BoundText

end DashQuery
