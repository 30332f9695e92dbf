import DashQuery.Text.Cluster.Basic

/-! # Lines as they are typed

A backspace in an input line takes back the cluster that was typed before it.  How
many bytes of UTF-8 that takes away is kept in one byte per cluster, so a cluster
of more bytes than that is only partly taken back, and a line whose text would be
cut inside a character cannot be edited at all.

* `TypedLine.takeBack?_of_type?`   what is typed can be taken back, if its size was kept
* `typed?_eq_self`                 a line without a backspace stays as it is -/

namespace DashQuery

/-- A line while it is typed. -/
structure TypedLine where
  /-- The characters so far, the newest first. -/
  chars : List Char
  /-- How many bytes each cluster takes away when it is taken back, the newest first. -/
  sizes : List Nat

/-- How many sizes one byte can tell apart. -/
def sizeLimit : Nat := 256

/-- The character that takes back what was typed before it. -/
def backspace : Char := '\x08'

/-- How many bytes of UTF-8 the characters take. -/
def byteCount : List Char → Nat
  | [] => 0
  | c :: cs => c.utf8Size + byteCount cs

/-- Takes `n` bytes away from the front; `none` if that would cut a character. -/
def dropBytes? : Nat → List Char → Option (List Char)
  | 0, cs => some cs
  | _ + 1, [] => none
  | n + 1, c :: cs => if c.utf8Size ≤ n + 1 then dropBytes? (n + 1 - c.utf8Size) cs else none

namespace TypedLine

/-- Nothing typed yet. -/
def empty : TypedLine := ⟨[], []⟩

/-- Takes back the last cluster, if there is one. -/
def takeBack? (line : TypedLine) : Option TypedLine :=
  match line.sizes with
  | [] => some line
  | n :: sizes => (dropBytes? n line.chars).map fun chars => ⟨chars, sizes⟩

/-- Types one more cluster. -/
def type? (line : TypedLine) (cluster : List Char) : Option TypedLine :=
  if cluster = [backspace] then line.takeBack?
  else some ⟨cluster.reverse ++ line.chars, byteCount cluster % sizeLimit :: line.sizes⟩

/-- Types clusters in order. -/
def typeAll? (line : TypedLine) : List (List Char) → Option TypedLine
  | [] => some line
  | cluster :: rest =>
    match line.type? cluster with
    | some next => next.typeAll? rest
    | none => none

end TypedLine

/-- What is left of a line after its backspaces; `none` if it cannot be edited. -/
def typed? (cs : List Char) : Option (List Char) :=
  (TypedLine.empty.typeAll? (clusters cs)).map fun line => line.chars.reverse

/-! ## Taking back -/

/-- Characters behind one another have their bytes together. -/
theorem byteCount_append (cs ds : List Char) :
    byteCount (cs ++ ds) = byteCount cs + byteCount ds := by
  induction cs with
  | nil => exact (Nat.zero_add _).symm
  | cons c cs ih => rw [List.cons_append, byteCount, byteCount, ih, Nat.add_assoc]

/-- The order of characters does not matter for their bytes. -/
theorem byteCount_reverse (cs : List Char) : byteCount cs.reverse = byteCount cs := by
  induction cs with
  | nil => rfl
  | cons c cs ih =>
    rw [List.reverse_cons, byteCount_append, ih, byteCount, byteCount, byteCount, Nat.add_zero,
      Nat.add_comm]

/-- Taking back as many bytes as a text has takes back the text. -/
theorem dropBytes?_byteCount (cs rest : List Char) :
    dropBytes? (byteCount cs) (cs ++ rest) = some rest := by
  induction cs with
  | nil => cases rest <;> rfl
  | cons c cs ih =>
    have hpos : 0 < c.utf8Size := Char.utf8Size_pos c
    have hsum : byteCount (c :: cs) = c.utf8Size + byteCount cs := rfl
    obtain ⟨n, hn⟩ : ∃ n, byteCount (c :: cs) = n + 1 :=
      ⟨c.utf8Size + byteCount cs - 1, by omega⟩
    have hle : c.utf8Size ≤ n + 1 := by omega
    have hrest : n + 1 - c.utf8Size = byteCount cs := by omega
    rw [hn, List.cons_append, dropBytes?, if_pos hle, hrest, ih]

/-- A backspace takes back the cluster before it, if one byte can tell its size. -/
theorem TypedLine.takeBack?_of_type? {line next : TypedLine} {cluster : List Char}
    (hne : cluster ≠ [backspace]) (hsize : byteCount cluster < sizeLimit)
    (h : line.type? cluster = some next) : next.takeBack? = some line := by
  rw [type?, if_neg hne, Option.some_inj] at h
  subst h
  have hdrop := dropBytes?_byteCount cluster.reverse line.chars
  rw [byteCount_reverse] at hdrop
  simp only [takeBack?, Nat.mod_eq_of_lt hsize, hdrop, Option.map_some]

/-! ## Lines without a backspace -/

/-- Clusters that are no backspace are added one after another. -/
theorem TypedLine.typeAll?_of_no_backspace (line : TypedLine) {cs : List (List Char)}
    (h : ∀ cluster ∈ cs, cluster ≠ [backspace]) :
    ∃ sizes, line.typeAll? cs = some ⟨cs.flatten.reverse ++ line.chars, sizes⟩ := by
  induction cs generalizing line with
  | nil => exact ⟨line.sizes, rfl⟩
  | cons cluster cs ih =>
    have hne : cluster ≠ [backspace] := h cluster List.mem_cons_self
    obtain ⟨sizes, hsizes⟩ := ih
      ⟨cluster.reverse ++ line.chars, byteCount cluster % sizeLimit :: line.sizes⟩
      fun other hother => h other (List.mem_cons_of_mem _ hother)
    refine ⟨sizes, ?_⟩
    rw [typeAll?, type?, if_neg hne]
    simpa using hsizes

/-- A line without a backspace stays as it is. -/
theorem typed?_eq_self {cs : List Char} (h : backspace ∉ cs) : typed? cs = some cs := by
  have hclusters : ∀ cluster ∈ clusters cs, cluster ≠ [backspace] := by
    intro cluster hmem heq
    apply h
    rw [← flatten_clusters cs]
    exact List.mem_flatten.mpr ⟨cluster, hmem, by rw [heq]; exact List.mem_singleton_self _⟩
  obtain ⟨sizes, hsizes⟩ := TypedLine.typeAll?_of_no_backspace .empty hclusters
  rw [typed?, hsizes, flatten_clusters]
  simp [TypedLine.empty]

end DashQuery
