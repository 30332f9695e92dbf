import DashQuery.Proofs.Filter.Strip

/-!
# Taking columns out of a filter

Taking a column out is one case of keeping the conditions that pass a test, and with
them the groups that are not left empty.  To keep by one test and then by another is
to keep by both at once, at whatever depth groups are emptied on the way.  So it does
not matter in which order two columns are taken out, and the second time a column is
taken out nothing is left to do.

## Key results

- `FilterNode.keepAll_keepAll`: two tests one after the other are both at once
- `FilterNode.leaves_ne_nil_of_mem_nodes`: no group that is left is without a condition
- `FilterGroup.strip_removes`: what is left of a filter, and what taking out once more does
-/

namespace DashQuery

namespace FilterNode

variable {source column : String} {p q : Condition → Bool}

/-! ## Keeping conditions by a test -/

mutual

/-- The node without the conditions that fail the test, if something is left of it. -/
def keep? (p : Condition → Bool) : FilterNode → Option FilterNode
  | .condition c => if p c then some (.condition c) else none
  | .group combinator entries =>
    match keepAll p entries with
    | [] => none
    | n :: ns => some (.group combinator (n :: ns))

/-- What is left of several nodes without the conditions that fail the test. -/
def keepAll (p : Condition → Bool) : List FilterNode → List FilterNode
  | [] => []
  | n :: ns => (keep? p n).toList ++ keepAll p ns

end

mutual

/-- Without a column means with the conditions that are not on it. -/
theorem strip?_eq_keep? : ∀ n : FilterNode,
    strip? source column n = keep? (fun c => !sameColumn source c.column column) n
  | .condition c => by
    cases hsame : sameColumn source c.column column <;> simp [strip?, keep?, hsame]
  | .group combinator entries => by
    cases hkept : keepAll (fun c => !sameColumn source c.column column) entries <;>
      simp [strip?, keep?, stripAll_eq_keepAll entries, hkept]

/-- The same for a list of nodes. -/
theorem stripAll_eq_keepAll : ∀ ns : List FilterNode,
    stripAll source column ns = keepAll (fun c => !sameColumn source c.column column) ns
  | [] => rfl
  | n :: ns => by
    rw [stripAll, keepAll, strip?_eq_keep? n, stripAll_eq_keepAll ns]
    cases keep? (fun c => !sameColumn source c.column column) n <;> rfl

end

/-- What is kept of two lists is kept of each. -/
theorem keepAll_append (ns ms : List FilterNode) :
    keepAll p (ns ++ ms) = keepAll p ns ++ keepAll p ms := by
  induction ns with
  | nil => rfl
  | cons n ns ih => rw [List.cons_append, keepAll, keepAll, ih, List.append_assoc]

/-- A group goes with the last of its entries. -/
theorem keep?_group (combinator : Combinator) (entries : List FilterNode) :
    keep? p (.group combinator entries) =
      if keepAll p entries = [] then none else some (.group combinator (keepAll p entries)) := by
  rw [keep?]
  split
  · next h => rw [if_pos h]
  · next h => rw [h, if_neg (List.cons_ne_nil _ _)]

mutual

/-- Keeping by one test and then by another is keeping by both. -/
theorem keepAll_keep? : ∀ n : FilterNode,
    keepAll q (keep? p n).toList = (keep? (fun c => p c && q c) n).toList
  | .condition c => by
    cases hp : p c <;> cases hq : q c <;> simp [keep?, keepAll, hp, hq]
  | .group combinator entries => by
    rw [keep?_group, keep?_group, ← keepAll_keepAll entries]
    by_cases hp : keepAll p entries = []
    · -- the first test has emptied the group, so the second finds nothing either
      simp [hp, keepAll]
    · simp [hp, keepAll, keep?_group]

/-- The same for a list of nodes. -/
theorem keepAll_keepAll : ∀ ns : List FilterNode,
    keepAll q (keepAll p ns) = keepAll (fun c => p c && q c) ns
  | [] => rfl
  | n :: ns => by
    rw [keepAll, keepAll_append, keepAll_keep? n, keepAll_keepAll ns, keepAll]

end

/-! ## No group is left without a condition -/

mutual

/-- Each node in what is left of a node holds a condition. -/
theorem leaves_ne_nil_of_mem_nodes {depth : Nat} : ∀ (n : FilterNode) {m : FilterNode},
    strip? source column n = some m → ∀ r ∈ nodes depth m, leaves r.2 ≠ []
  | .condition c, m, h => by
    obtain ⟨-, rfl⟩ := strip?_condition_eq_some_iff.mp h
    simp [nodes, leaves]
  | .group combinator entries, m, h => by
    have hself := leaves_ne_nil_of_strip? _ h
    obtain ⟨-, rfl⟩ := strip?_group_eq_some_iff.mp h
    rw [nodes]
    exact List.forall_mem_cons.mpr ⟨hself, leaves_ne_nil_of_mem_nodesOf entries⟩

/-- The same for a list of nodes. -/
theorem leaves_ne_nil_of_mem_nodesOf {depth : Nat} : ∀ (ns : List FilterNode),
    ∀ r ∈ nodesOf depth (stripAll source column ns), leaves r.2 ≠ []
  | [] => List.forall_mem_nil _
  | n :: ns => by
    rw [stripAll]
    cases hn : strip? source column n with
    -- the first node is gone
    | none => exact leaves_ne_nil_of_mem_nodesOf ns
    | some m =>
      -- the first node is left, with what is in it
      rw [nodesOf]
      exact List.forall_mem_append.mpr
        ⟨leaves_ne_nil_of_mem_nodes n hn, leaves_ne_nil_of_mem_nodesOf ns⟩

end

end FilterNode

namespace FilterGroup

/-- The conditions of a filter, left to right, each under the combinators of the groups around it,
the outermost first. -/
def placed (g : FilterGroup) : List (List Combinator × Condition) :=
  FilterNode.placedOf [g.combinator] g.entries

/-- Without one column and then without another is with the conditions on neither. -/
theorem strip_strip (g : FilterGroup) (source column other : String) :
    (g.strip source column).strip source other =
      ⟨g.combinator, FilterNode.keepAll (fun c =>
        !sameColumn source c.column column && !sameColumn source c.column other) g.entries⟩ := by
  rw [strip, strip, FilterNode.stripAll_eq_keepAll, FilterNode.stripAll_eq_keepAll,
    FilterNode.keepAll_keepAll]

/-- Taking a column out of a filter leaves exactly the conditions on other columns, as they are, in
order, and each under the same combinators; two names are one column if they are the same up to the
source table's name in front.  No group that is left inside the filter is without a condition.
Taking the column out once more changes nothing, and two columns can be taken out in either
order. -/
theorem strip_removes (g : FilterGroup) (source column : String) :
    (g.strip source column).placed = g.placed.filter (fun r =>
        withoutSource source r.2.column != withoutSource source column) ∧
      (g.strip source column).leaves = g.leaves.filter (fun c =>
        withoutSource source c.column != withoutSource source column) ∧
      (∀ r ∈ (g.strip source column).nodes, 0 < r.1 → r.2.leaves ≠ []) ∧
      (g.strip source column).strip source column = g.strip source column ∧
      ∀ other, (g.strip source column).strip source other =
        (g.strip source other).strip source column := by
  refine ⟨FilterNode.placedOf_stripAll _ g.entries, g.leaves_strip source column, ?_, ?_,
    fun other => ?_⟩
  · -- the filter itself may be empty, a group inside it is not
    rw [nodes, toNode, FilterNode.nodes, List.forall_mem_cons]
    exact ⟨fun h => absurd h (Nat.lt_irrefl 0),
      fun r hr _ => FilterNode.leaves_ne_nil_of_mem_nodesOf g.entries r hr⟩
  · -- removing a column again
    rw [strip_strip, strip, FilterNode.stripAll_eq_keepAll]
    simp only [Bool.and_self]
  · -- removing two columns in either order
    rw [strip_strip, strip_strip]
    simp only [Bool.and_comm]

/-- A filter with conditions on the status under both its names, two groups that hold nothing else,
and an empty group. -/
def nestedStatusSample : FilterGroup :=
  ⟨.or, [.condition ⟨"status", "=", .str "a"⟩,
    .group .and [.condition ⟨"orders.status", "!=", .str "b"⟩, .group .or []],
    .group .and [.condition ⟨"u.status", "=", .str "c"⟩,
      .group .or [.condition ⟨"status", "IS NULL", .null⟩, .condition ⟨"amount", ">", .int 1⟩]]]⟩

/-- What is left of the sample, and where. -/
theorem nestedStatusSample_removes :
    (nestedStatusSample.strip "orders" "status").placed =
        [([.or, .and], ⟨"u.status", "=", .str "c"⟩),
          ([.or, .and, .or], ⟨"amount", ">", .int 1⟩)] ∧
      (∀ r ∈ (nestedStatusSample.strip "orders" "status").nodes, 0 < r.1 → r.2.leaves ≠ []) ∧
      (nestedStatusSample.strip "orders" "status").strip "orders" "amount" =
        (nestedStatusSample.strip "orders" "amount").strip "orders" "status" := by
  obtain ⟨hplaced, -, hnodes, -, hother⟩ := strip_removes nestedStatusSample "orders" "status"
  refine ⟨?_, hnodes, hother "amount"⟩
  rw [hplaced]
  rfl

end FilterGroup

end DashQuery
