import DashQuery.Filter.Strip
import DashQuery.Proofs.Filter.Shown

/-!
# What is left of a filter

`FilterGroup.strip` takes the conditions on one column out of a filter, and with
them the groups that are left empty.  Nothing else changes: the other conditions
stay in their order, and no group becomes larger or comes to stand deeper.

## Key results

- `FilterNode.leavesOf_stripAll`: the conditions that are left are the others, in order
- `FilterNode.leaves_ne_nil_of_strip?`: every node that is left holds a condition
- `FilterGroup.predicate_strip`: what is left of a filter with a predicate has one
-/

namespace DashQuery

/-- A group keeps the bounds if it is not too deep and has not too many entries. -/
theorem FilterBounds.check_eq_ok_iff {bounds : FilterBounds} {depth : Nat}
    {entries : List FilterNode} :
    bounds.check depth entries = .ok () ↔
      depth ≤ bounds.maxDepth ∧ entries.length ≤ bounds.maxConditions := by
  unfold check
  split
  -- too deep, too many entries, or neither
  · next h => simp [Nat.not_le.mpr h]
  · next h =>
    split
    · next h' => simp [Nat.not_le.mpr h']
    · next h' => simp [Nat.not_lt.mp h, Nat.not_lt.mp h']

/-- A group with fewer entries keeps the bounds that a larger one keeps. -/
theorem FilterBounds.check_mono {bounds : FilterBounds} {depth : Nat}
    {entries fewer : List FilterNode} (hle : fewer.length ≤ entries.length)
    (h : bounds.check depth entries = .ok ()) : bounds.check depth fewer = .ok () := by
  obtain ⟨hdepth, hsize⟩ := check_eq_ok_iff.mp h
  exact check_eq_ok_iff.mpr ⟨hdepth, Nat.le_trans hle hsize⟩

namespace FilterNode

variable {source column : String}

/-! ## Which nodes are left -/

/-- A condition is left if it is on another column. -/
theorem strip?_condition_eq_some_iff {c : Condition} {m : FilterNode} :
    strip? source column (.condition c) = some m ↔
      sameColumn source c.column column = false ∧ m = .condition c := by
  rw [strip?]
  split
  · next h => simp [h]
  · next h =>
    rw [Bool.not_eq_true] at h
    simp [h, eq_comm]

/-- A group is left if one of its entries is, with those that are. -/
theorem strip?_group_eq_some_iff {combinator : Combinator} {entries : List FilterNode}
    {m : FilterNode} :
    strip? source column (.group combinator entries) = some m ↔
      stripAll source column entries ≠ [] ∧
        m = .group combinator (stripAll source column entries) := by
  rw [strip?]
  split
  · next h => simp [h]
  · next h => simp [h, eq_comm]

/-- What is left of several nodes is left of one of them. -/
theorem mem_stripAll {ns : List FilterNode} {m : FilterNode} :
    m ∈ stripAll source column ns ↔ ∃ n ∈ ns, strip? source column n = some m := by
  rw [stripAll_eq_filterMap, List.mem_filterMap]

/-- No entries are added. -/
theorem length_stripAll_le (source column : String) (ns : List FilterNode) :
    (stripAll source column ns).length ≤ ns.length := by
  rw [stripAll_eq_filterMap]
  exact List.length_filterMap_le _ _

/-! ## Conditions and the groups around them -/

mutual

/-- The conditions of a node, left to right, each under the combinators of the groups around it;
`around` are those of the groups around the node, the outermost first. -/
def placed (around : List Combinator) : FilterNode → List (List Combinator × Condition)
  | .condition c => [(around, c)]
  | .group combinator entries => placedOf (around ++ [combinator]) entries

/-- The conditions of several nodes under the combinators of the groups around them. -/
def placedOf (around : List Combinator) : List FilterNode → List (List Combinator × Condition)
  | [] => []
  | n :: ns => placed around n ++ placedOf around ns

end

mutual

/-- Without the groups around them the placed conditions are the node's. -/
theorem map_snd_placed (around : List Combinator) : ∀ n : FilterNode,
    (placed around n).map Prod.snd = leaves n
  | .condition c => rfl
  | .group combinator entries => by rw [placed, leaves, map_snd_placedOf _ entries]

/-- The same for several nodes. -/
theorem map_snd_placedOf (around : List Combinator) : ∀ ns : List FilterNode,
    (placedOf around ns).map Prod.snd = leavesOf ns
  | [] => rfl
  | n :: ns => by
    rw [placedOf, leavesOf, List.map_append, map_snd_placed around n, map_snd_placedOf around ns]

end

mutual

/-- What is left of a node holds its other conditions, in order and under the same combinators. -/
theorem placed_strip? (around : List Combinator) : ∀ n : FilterNode,
    (strip? source column n).toList.flatMap (placed around) =
      (placed around n).filter fun p => !sameColumn source p.2.column column
  | .condition c => by
    rw [strip?, placed]
    by_cases h : sameColumn source c.column column = true
    · simp [h]
    · simp [h, placed]
  -- a group stays around its conditions, if any of them is left
  | .group combinator entries => by
    rw [strip?, placed, ← placedOf_stripAll _ entries]
    cases stripAll source column entries with
    | nil => rfl
    | cons m ms => simp [placed]

/-- What is left of several nodes holds their other conditions, in order and under the same
combinators. -/
theorem placedOf_stripAll (around : List Combinator) : ∀ ns : List FilterNode,
    placedOf around (stripAll source column ns) =
      (placedOf around ns).filter fun p => !sameColumn source p.2.column column
  | [] => rfl
  | n :: ns => by
    rw [stripAll, placedOf, List.filter_append, ← placed_strip? around n,
      ← placedOf_stripAll around ns]
    cases strip? source column n with
    | none => rfl
    | some m => simp [placedOf]

end

/-- What is left of several nodes holds their other conditions, in order. -/
theorem leavesOf_stripAll (ns : List FilterNode) :
    leavesOf (stripAll source column ns) =
      (leavesOf ns).filter fun c => !sameColumn source c.column column := by
  rw [← map_snd_placedOf [] ns, List.filter_map, Function.comp_def, ← placedOf_stripAll,
    map_snd_placedOf]

/-- What is left of a node holds its other conditions, in order. -/
theorem leaves_strip? (n : FilterNode) :
    (strip? source column n).toList.flatMap leaves =
      (leaves n).filter fun c => !sameColumn source c.column column := by
  rw [← map_snd_placed [] n, List.filter_map, Function.comp_def, ← placed_strip?, List.map_flatMap]
  simp only [map_snd_placed]

mutual

/-- Every node that is left holds a condition. -/
theorem leaves_ne_nil_of_strip? : ∀ (n : FilterNode) {m : FilterNode},
    strip? source column n = some m → leaves m ≠ []
  | .condition c, m, h => by
    obtain ⟨-, rfl⟩ := strip?_condition_eq_some_iff.mp h
    simp [leaves]
  | .group combinator entries, m, h => by
    obtain ⟨hne, rfl⟩ := strip?_group_eq_some_iff.mp h
    rw [leaves]
    exact leavesOf_stripAll_ne_nil entries hne

/-- Where nodes are left, conditions are left. -/
theorem leavesOf_stripAll_ne_nil : ∀ ns : List FilterNode,
    stripAll source column ns ≠ [] → leavesOf (stripAll source column ns) ≠ []
  | [], h => absurd rfl h
  | n :: ns, h => by
    rw [stripAll] at h ⊢
    -- the first node is left, with a condition, or a later one is
    cases hn : strip? source column n with
    | none =>
      simp only [hn] at h
      exact leavesOf_stripAll_ne_nil ns h
    | some m =>
      rw [leavesOf]
      exact List.append_ne_nil_of_left_ne_nil (leaves_ne_nil_of_strip? n hn) _

end

/-- Nothing is left of a node exactly if all its conditions are on the column. -/
theorem strip?_eq_none_iff {n : FilterNode} :
    strip? source column n = none ↔
      ∀ c ∈ leaves n, sameColumn source c.column column = true := by
  have hleft : (strip? source column n).toList.flatMap leaves = _ := leaves_strip? n
  constructor
  · intro h c hc
    rw [h] at hleft
    have hnone := List.filter_eq_nil_iff.mp hleft.symm c hc
    simpa using hnone
  · intro h
    -- no condition is left, and a node that is left would hold one
    have hnil : ((leaves n).filter fun c => !sameColumn source c.column column) = [] :=
      List.filter_eq_nil_iff.mpr fun c hc => by simp [h c hc]
    cases hm : strip? source column n with
    | none => rfl
    | some m =>
      rw [hm, hnil, Option.toList_some, List.flatMap_singleton] at hleft
      exact absurd hleft (leaves_ne_nil_of_strip? n hm)

/-! ## What is left has a predicate -/

variable {bounds : FilterBounds} {scope : Scope}

mutual

/-- What is left of a node with a predicate has one, at the same depth. -/
theorem predicate_strip? {depth : Nat} : ∀ (n : FilterNode) {b : BoundText} {m : FilterNode},
    predicate bounds scope depth n = .ok b → strip? source column n = some m →
      ∃ b', predicate bounds scope depth m = .ok b'
  | .condition c, b, m, h, hm => by
    obtain ⟨-, rfl⟩ := strip?_condition_eq_some_iff.mp hm
    exact ⟨b, h⟩
  | .group combinator entries, b, m, h, hm => by
    obtain ⟨-, rfl⟩ := strip?_group_eq_some_iff.mp hm
    obtain ⟨hcheck, parts, hparts, -⟩ := predicate_group_eq_ok_iff.mp h
    obtain ⟨parts', hparts'⟩ := predicates_stripAll entries hparts
    -- the group stays at its depth and has at most as many entries as before
    have hcheck' := FilterBounds.check_mono (length_stripAll_le source column entries) hcheck
    exact ⟨_, predicate_group_eq_ok_iff.mpr ⟨hcheck', parts', hparts', rfl⟩⟩

/-- What is left of several nodes has predicates. -/
theorem predicates_stripAll {depth : Nat} : ∀ (ns : List FilterNode) {bs : List BoundText},
    predicates bounds scope depth ns = .ok bs →
      ∃ bs', predicates bounds scope depth (stripAll source column ns) = .ok bs'
  | [], bs, _ => ⟨[], rfl⟩
  | n :: ns, bs, h => by
    obtain ⟨part, parts, hpart, hparts, -⟩ := predicates_cons_eq_ok_iff.mp h
    obtain ⟨parts', hparts'⟩ := predicates_stripAll ns hparts
    rw [stripAll]
    -- the first node is dropped, or what is left of it has a predicate
    cases hn : strip? source column n with
    | none => exact ⟨parts', hparts'⟩
    | some m =>
      obtain ⟨part', hpart'⟩ := predicate_strip? n hpart hn
      exact ⟨_, predicates_cons_eq_ok_iff.mpr ⟨part', parts', hpart', hparts', rfl⟩⟩

end

end FilterNode

namespace FilterGroup

variable {bounds : FilterBounds} {scope : Scope} {g : FilterGroup} {b : BoundText}
  {source column : String}

/-- What is left of a filter holds its other conditions, in order. -/
theorem leaves_strip (g : FilterGroup) (source column : String) :
    (g.strip source column).leaves =
      g.leaves.filter fun c => !sameColumn source c.column column :=
  FilterNode.leavesOf_stripAll g.entries

/-- What is left of a filter with a predicate has one. -/
theorem predicate_strip (h : g.predicate bounds scope = .ok b) :
    ∃ b', (g.strip source column).predicate bounds scope = .ok b' := by
  obtain ⟨hcheck, parts, hparts, -⟩ := predicate_eq_ok_iff.mp h
  obtain ⟨parts', hparts'⟩ : ∃ parts', FilterNode.predicates bounds scope 0
      (FilterNode.stripAll source column g.entries) = .ok parts' :=
    FilterNode.predicates_stripAll g.entries hparts
  have hcheck' :=
    FilterBounds.check_mono (FilterNode.length_stripAll_le source column g.entries) hcheck
  exact ⟨_, predicate_eq_ok_iff.mpr ⟨hcheck', parts', hparts', rfl⟩⟩

end FilterGroup

end DashQuery
