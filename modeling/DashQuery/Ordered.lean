/-! # Entries ordered by key

A table of entries with distinct string keys, kept as a list whose keys strictly
increase.  Strings compare by code points, which is also the order of their
UTF-8 bytes.  `Ordered.put` writes an entry, over an earlier one of the same key:

* `lookup_put_self`, `lookup_put_of_ne`   what is found after a write
* `lookup_ofList`                         what is found after several: the last write of the key
* `sorted_put`                            the keys still strictly increase
* `put_eq_append`                         a key above all others goes to the end -/

namespace DashQuery.Ordered

variable {α : Type}

/-- The keys strictly increase, so each occurs once. -/
def Sorted (entries : List (String × α)) : Prop := entries.Pairwise (fun a b => a.1 < b.1)

/-- Writes `value` under `key`. -/
def put (key : String) (value : α) : List (String × α) → List (String × α)
  | [] => [(key, value)]
  | (k, v) :: rest =>
    if key < k then (key, value) :: (k, v) :: rest
    else if key = k then (key, value) :: rest
    else (k, v) :: put key value rest

/-- The table of a list of entries; of several with one key the last stays. -/
def ofList (entries : List (String × α)) : List (String × α) :=
  entries.foldl (fun table entry => put entry.1 entry.2 table) []

/-! ## What a write does -/

/-- What has been written is found. -/
theorem lookup_put_self (key : String) (value : α) (entries : List (String × α)) :
    (put key value entries).lookup key = some value := by
  induction entries with
  | nil => simp [put]
  | cons e rest ih =>
    obtain ⟨k, v⟩ := e
    unfold put
    split
    · simp
    · split
      · simp
      · next h => simp [List.lookup_cons, beq_eq_false_iff_ne.mpr h, ih]

/-- A write leaves the values of other keys. -/
theorem lookup_put_of_ne {key other : String} (h : other ≠ key) (value : α)
    (entries : List (String × α)) :
    (put key value entries).lookup other = entries.lookup other := by
  induction entries with
  | nil => simp [put, List.lookup_cons, beq_eq_false_iff_ne.mpr h]
  | cons e rest ih =>
    obtain ⟨k, v⟩ := e
    unfold put
    split
    · simp [List.lookup_cons, beq_eq_false_iff_ne.mpr h]
    · split
      · next hk => subst hk; simp [List.lookup_cons, beq_eq_false_iff_ne.mpr h]
      · simp only [List.lookup_cons, ih]

/-- Of several entries with one key the last one is found. -/
theorem lookup_ofList (entries : List (String × α)) (key : String) :
    (ofList entries).lookup key = entries.reverse.lookup key := by
  suffices h : ∀ table : List (String × α),
      (entries.foldl (fun table entry => put entry.1 entry.2 table) table).lookup key =
        (entries.reverse.lookup key).or (table.lookup key) by
    rw [ofList, h [], List.lookup_nil, Option.or_none]
  induction entries with
  | nil => exact fun _ => rfl
  | cons e rest ih =>
    intro table
    obtain ⟨k, v⟩ := e
    rw [List.foldl_cons, ih, List.reverse_cons, List.lookup_append, Option.or_assoc]
    congr 1
    by_cases hkey : key = k
    · subst hkey
      simp [lookup_put_self]
    · simp [lookup_put_of_ne hkey, List.lookup_cons, beq_eq_false_iff_ne.mpr hkey]

/-- An entry behind a write is the one written or was there. -/
theorem mem_put {e : String × α} {key : String} {value : α} {entries : List (String × α)}
    (h : e ∈ put key value entries) : e = (key, value) ∨ e ∈ entries := by
  induction entries with
  | nil => simpa [put] using h
  | cons a rest ih =>
    unfold put at h
    split at h
    · simpa using h
    · split at h
      · rcases List.mem_cons.mp h with h | h
        · exact .inl h
        · exact .inr (List.mem_cons_of_mem _ h)
      · rcases List.mem_cons.mp h with h | h
        · exact .inr (h ▸ List.mem_cons_self)
        · exact (ih h).imp id (List.mem_cons_of_mem _)

/-- The empty table is sorted. -/
theorem sorted_nil : Sorted ([] : List (String × α)) := List.Pairwise.nil

/-- Writing keeps the order. -/
theorem sorted_put (key : String) (value : α) {entries : List (String × α)}
    (h : Sorted entries) : Sorted (put key value entries) := by
  induction entries with
  | nil => exact List.pairwise_singleton _ _
  | cons e rest ih =>
    obtain ⟨k, v⟩ := e
    obtain ⟨hk, hrest⟩ := List.pairwise_cons.mp h
    unfold put
    split
    · next hlt =>
      refine List.pairwise_cons.mpr ⟨?_, h⟩
      intro a ha
      rcases List.mem_cons.mp ha with rfl | ha
      · exact hlt
      · exact String.lt_trans hlt (hk a ha)
    · next hnlt =>
      split
      · next heq => subst heq; exact List.pairwise_cons.mpr ⟨hk, hrest⟩
      · next hne =>
        refine List.pairwise_cons.mpr ⟨?_, ih hrest⟩
        intro a ha
        rcases mem_put ha with rfl | ha
        · exact (Std.lt_trichotomy key k).resolve_left hnlt |>.resolve_left hne
        · exact hk a ha

/-- A table made by writes is sorted. -/
theorem sorted_ofList (entries : List (String × α)) : Sorted (ofList entries) := by
  suffices h : ∀ table : List (String × α), Sorted table →
      Sorted (entries.foldl (fun table entry => put entry.1 entry.2 table) table) from
    h [] sorted_nil
  induction entries with
  | nil => exact fun _ h => h
  | cons e rest ih => exact fun table h => ih _ (sorted_put e.1 e.2 h)

/-- A key above all others goes to the end. -/
theorem put_eq_append {key : String} {entries : List (String × α)} (value : α)
    (h : ∀ e ∈ entries, e.1 < key) : put key value entries = entries ++ [(key, value)] := by
  induction entries with
  | nil => rfl
  | cons e rest ih =>
    obtain ⟨k, v⟩ := e
    have hk : k < key := h (k, v) List.mem_cons_self
    have hne : key ≠ k := fun heq => String.lt_irrefl k (heq ▸ hk)
    have hnlt : ¬ key < k := fun hlt => String.lt_irrefl k (String.lt_trans hk hlt)
    simp [put, hne, hnlt, ih fun e he => h e (List.mem_cons_of_mem _ he)]

/-- A table that is already in order is the table of its own entries. -/
theorem ofList_eq_self {entries : List (String × α)} (h : Sorted entries) :
    ofList entries = entries := by
  suffices hs : ∀ done : List (String × α), Sorted (done ++ entries) →
      entries.foldl (fun table entry => put entry.1 entry.2 table) done = done ++ entries from
    hs [] h
  clear h
  induction entries with
  | nil => simp
  | cons e rest ih =>
    intro done h
    have hlt : ∀ a ∈ done, a.1 < e.1 := fun a ha =>
      (List.pairwise_append.mp h).2.2 a ha e List.mem_cons_self
    have hnext : done ++ e :: rest = (done ++ [e]) ++ rest := by simp
    rw [List.foldl_cons, put_eq_append _ hlt, hnext]
    exact ih (done ++ [e]) (hnext ▸ h)

end DashQuery.Ordered
