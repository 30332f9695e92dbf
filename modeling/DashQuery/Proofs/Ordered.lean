import DashQuery.Ordered
import Mathlib.Data.List.Dedup

/-!
# Tables as finite maps

A table in order holds each key once, so it is determined by what a lookup finds
in it: writing the same last values in another order gives the same table.

## Key results

- `Ordered.lookup_eq_some_iff_mem`: what a lookup finds is what the table holds
- `Ordered.lookup_ofList_eq_some_iff`: what is found where a key has one value
- `Ordered.ext`: tables in which every lookup finds the same are the same
- `Ordered.mem_keys_ofList_iff`, `Ordered.length_ofList`: the keys of a written table
-/

namespace DashQuery.Ordered

variable {α : Type} {entries others : List (String × α)} {key : String}

/-- A table is in order if its keys are. -/
theorem sorted_iff : Sorted entries ↔ (entries.map Prod.fst).Pairwise (· < ·) :=
  List.pairwise_map.symm

/-- The keys of a table in order differ. -/
theorem nodup_keys (h : Sorted entries) : (entries.map Prod.fst).Nodup :=
  List.pairwise_map.mpr (h.imp fun hlt => String.ne_of_lt hlt)

/-- The keys of some entries are those under which something is found. -/
theorem mem_keys_iff : key ∈ entries.map Prod.fst ↔ (entries.lookup key).isSome = true := by
  rw [List.lookup_isSome_iff, List.mem_map]
  exact exists_congr fun e => and_congr_right fun _ => eq_comm.trans beq_iff_eq.symm

/-- The keys of a written table are those that were written. -/
theorem mem_keys_ofList_iff :
    key ∈ (ofList entries).map Prod.fst ↔ key ∈ entries.map Prod.fst := by
  rw [mem_keys_iff, lookup_ofList, ← mem_keys_iff, List.map_reverse, List.mem_reverse]

/-- A table has as many entries as there are different keys. -/
theorem length_ofList (entries : List (String × α)) :
    (ofList entries).length = (entries.map Prod.fst).dedup.length := by
  -- the same keys are found in the table and among the entries, and in both each is there once
  have hperm : ((ofList entries).map Prod.fst).Perm (entries.map Prod.fst).dedup := by
    refine (List.perm_ext_iff_of_nodup (nodup_keys (sorted_ofList entries))
      (List.nodup_dedup _)).mpr fun key => ?_
    rw [mem_keys_ofList_iff, List.mem_dedup]
  rw [← hperm.length_eq, List.length_map]

/-- Where keys differ, a lookup finds exactly the entries. -/
theorem lookup_eq_some_iff_mem (h : (entries.map Prod.fst).Nodup) {value : α} :
    entries.lookup key = some value ↔ (key, value) ∈ entries := by
  rw [List.lookup_eq_some_iff]
  constructor
  · rintro ⟨before, after, rfl, -⟩
    exact List.mem_append_right _ List.mem_cons_self
  · intro hmem
    obtain ⟨before, after, rfl⟩ := List.append_of_mem hmem
    refine ⟨before, after, rfl, fun e he => ?_⟩
    -- an earlier entry with this key would be a second one
    rw [List.map_append, List.map_cons] at h
    have hne : e.1 ≠ key := fun heq =>
      List.disjoint_of_nodup_append h (List.mem_map_of_mem he) (heq ▸ List.mem_cons_self)
    exact bne_iff_ne.mpr hne.symm

/-- Where keys differ, the table of some entries finds what they hold. -/
theorem lookup_ofList_of_nodup (h : (entries.map Prod.fst).Nodup) (key : String) :
    (ofList entries).lookup key = entries.lookup key := by
  have hreverse : (entries.reverse.map Prod.fst).Nodup := by
    rw [List.map_reverse, List.nodup_reverse]
    exact h
  refine Option.ext fun value => ?_
  rw [lookup_ofList, lookup_eq_some_iff_mem hreverse, List.mem_reverse, lookup_eq_some_iff_mem h]

/-- A lookup goes through a change of the values. -/
theorem lookup_map_snd {β : Type} (f : α → β) (entries : List (String × α)) (key : String) :
    (entries.map fun e => (e.1, f e.2)).lookup key = (entries.lookup key).map f := by
  induction entries with
  | nil => rfl
  | cons e rest ih =>
    rw [List.map_cons, List.lookup_cons, List.lookup_cons, ih]
    cases key == e.1 <;> rfl

/-- Where entries of one key have one value, the table has it, whatever the order of the entries. -/
theorem lookup_ofList_eq_some_iff (holds : String → α → Prop)
    (hentries : ∀ e ∈ entries, holds e.1 e.2)
    (hunique : ∀ {key value value'}, holds key value → holds key value' → value = value')
    {value : α} :
    (ofList entries).lookup key = some value ↔ key ∈ entries.map Prod.fst ∧ holds key value := by
  rw [lookup_ofList]
  -- what is looked up is one of the entries
  have hfound : ∀ v, entries.reverse.lookup key = some v → holds key v := by
    intro v hv
    obtain ⟨before, after, heq, -⟩ := List.lookup_eq_some_iff.mp hv
    refine hentries (key, v) (List.mem_reverse.mp ?_)
    rw [heq]
    exact List.mem_append_right _ List.mem_cons_self
  -- something is found exactly under the keys of the entries
  have hkey : key ∈ entries.map Prod.fst ↔ ∃ v, entries.reverse.lookup key = some v := by
    rw [← Option.isSome_iff_exists, ← mem_keys_iff, List.map_reverse, List.mem_reverse]
  constructor
  · intro h
    exact ⟨hkey.mpr ⟨value, h⟩, hfound value h⟩
  · rintro ⟨hmem, hvalue⟩
    obtain ⟨v, hv⟩ := hkey.mp hmem
    rw [hv, hunique (hfound v hv) hvalue]

/-- A table in order is determined by what is found in it. -/
theorem ext (h : Sorted entries) (h' : Sorted others)
    (hlookup : ∀ key, entries.lookup key = others.lookup key) : entries = others := by
  have hmem : ∀ e, e ∈ entries ↔ e ∈ others := by
    rintro ⟨key, value⟩
    rw [← lookup_eq_some_iff_mem (nodup_keys h), hlookup, lookup_eq_some_iff_mem (nodup_keys h')]
  have hperm := (List.perm_ext_iff_of_nodup (nodup_keys h).of_map (nodup_keys h').of_map).mpr hmem
  -- two entries that stand in this order do not stand in the other one
  refine hperm.eq_of_pairwise (fun a b _ _ hab hba => ?_) h h'
  exact absurd (String.lt_trans hab hba) (String.lt_irrefl _)

end DashQuery.Ordered
