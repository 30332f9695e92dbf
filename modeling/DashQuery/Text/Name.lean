import DashQuery.Text.Blank

/-! # Names of tables, columns and aliases

A name reaches statement text only between double quotes and only if every
character of it is on a whitelist: ASCII letters and digits, underscore, dot and
blanks.  The double quote is not on it, so quoting needs no escape.

A name with a dot that has something on both sides of it is read as
`qualifier.column`; the first dot decides. -/

namespace DashQuery.Name

/-- The characters a name may consist of. -/
def isNameChar (c : Char) : Bool := c.isAlphanum || c == '_' || c == '.' || isBlank c

/-- A name is written with at least one character, all of them on the whitelist. -/
def isValid (name : String) : Bool := !name.toList.isEmpty && name.toList.all isNameChar

/-- The double quote, which encloses a name in statement text. -/
def quoteMark : Char := '\x22'

/-- `name` between double quotes.  Nothing inside is escaped: a valid name holds no quote. -/
def quote (name : String) : String := "\"" ++ name ++ "\""

/-- Both sides of the first dot, if neither is empty. -/
def split? (name : String) : Option (String × String) :=
  match name.toList.takeWhile (· != '.'), name.toList.dropWhile (· != '.') with
  | q :: qs, _ :: c :: cs => some (String.ofList (q :: qs), String.ofList (c :: cs))
  | _, _ => none

/-- The text of a reference inside a predicate: each side of `qualifier.column` is quoted by
itself, any other name is quoted whole. -/
def quoteReference (name : String) : String :=
  match split? name with
  | some (qualifier, column) => "\"" ++ qualifier ++ "\".\"" ++ column ++ "\""
  | none => "\"" ++ name ++ "\""

/-! ## The whitelist -/

/-- A valid name is a text of allowed characters, with at least one of them. -/
theorem isValid_iff {name : String} :
    isValid name = true ↔ name ≠ "" ∧ ∀ c ∈ name.toList, isNameChar c = true := by
  simp [isValid]

/-- A double quote is on no valid name's list of characters. -/
theorem isNameChar_quoteMark : isNameChar quoteMark = false := by decide

/-! ## The split -/

/-- The split loses nothing but the dot it splits at. -/
theorem eq_of_split? {name q c : String} (h : split? name = some (q, c)) :
    name = q ++ "." ++ c ∧ q ≠ "" ∧ c ≠ "" ∧ '.' ∉ q.toList := by
  unfold split? at h
  split at h
  · next a as d b bs ht hd =>
    obtain ⟨rfl, rfl⟩ := Prod.mk.inj (Option.some.inj h)
    have hcat := List.takeWhile_append_dropWhile (p := fun x => x != '.') (l := name.toList)
    have hdot : d = '.' := by
      have := List.head?_dropWhile_not (p := fun x => x != '.') (l := name.toList)
      rw [hd] at this
      simpa using this
    have hmem : ∀ x ∈ a :: as, x ≠ '.' := by
      intro x hx
      have hall := List.all_takeWhile (p := fun x => x != '.') (l := name.toList)
      rw [ht, List.all_eq_true] at hall
      simpa using hall x hx
    rw [ht, hd, hdot] at hcat
    refine ⟨?_, by simp [String.ext_iff], by simp [String.ext_iff], ?_⟩
    · apply String.ext
      simpa using hcat.symm
    · intro hm
      exact hmem '.' (by simpa using hm) rfl
  · simp at h

/-- The first dot of a name is where it was put together, if no dot comes before. -/
theorem span_append {q : String} (hdot : '.' ∉ q.toList) (c : String) :
    (q ++ "." ++ c).toList.takeWhile (· != '.') = q.toList ∧
      (q ++ "." ++ c).toList.dropWhile (· != '.') = '.' :: c.toList := by
  have hinside : ∀ x ∈ q.toList, (x != '.') = true := by
    intro x hx
    have hne : x ≠ '.' := fun heq => hdot (heq ▸ hx)
    simpa using hne
  have htext : (q ++ "." ++ c).toList = q.toList ++ '.' :: c.toList := by simp
  rw [htext, List.takeWhile_append_of_pos hinside, List.dropWhile_append_of_pos hinside]
  simp

/-- A name is split where it was put together, if no dot comes before. -/
theorem split?_append {q c : String} (hq : q ≠ "") (hdot : '.' ∉ q.toList) (hc : c ≠ "") :
    split? (q ++ "." ++ c) = some (q, c) := by
  obtain ⟨htake, hdrop⟩ := span_append hdot c
  obtain ⟨a, as, hqs⟩ := List.exists_cons_of_ne_nil (l := q.toList) (by simpa using hq)
  obtain ⟨b, bs, hcs⟩ := List.exists_cons_of_ne_nil (l := c.toList) (by simpa using hc)
  rw [split?, htake, hdrop]
  simp only [hqs, hcs]
  rw [← hqs, ← hcs, String.ofList_toList, String.ofList_toList]

end DashQuery.Name
