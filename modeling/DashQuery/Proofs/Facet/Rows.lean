import DashQuery.Proofs.Filter.Meaning
import DashQuery.Proofs.Filter.Strip
import Mathlib.Data.List.Nodup
import Mathlib.Data.List.Pairwise

/-!
# Which rows a facet keeps

A row makes some conditions of a filter true and the others false.  A facet drops
the conditions on its column.  Under a conjunction that can only let more rows
pass, but a disjunction that loses an alternative lets fewer pass, unless it is
lost as a whole.  So a facet keeps all rows of its base if every disjunction keeps
its alternatives, and for filters without a repeated condition only then.

## Key results

- `FilterNode.holds_strip?`: what is left of a node holds where the node does
- `FilterNode.exists_hidden`: a disjunction that loses an alternative hides some row
- `FilterGroup.passes_strip`: exactly when a filter keeps its rows without a column
-/

namespace DashQuery

/-- The value that makes no difference among others. -/
def Combinator.neutral : Combinator → Bool
  | and => true
  | or => false

/-- One value decides if all the others are like it or make no difference. -/
theorem Combinator.combine_eq (combinator : Combinator) {values : List Bool} {x : Bool}
    (hx : x ∈ values) (h : ∀ y ∈ values, y = x ∨ y = combinator.neutral) :
    combinator.combine values = x := by
  cases combinator with
  | and =>
    -- a conjunction is decided by a false value, a disjunction by a true one
    cases x with
    | true => exact List.all_eq_true.mpr fun y hy => (h y hy).elim id id
    | false => exact List.all_eq_false.mpr ⟨false, hx, Bool.false_ne_true⟩
  | or =>
    cases x with
    | true => exact List.any_eq_true.mpr ⟨true, hx, rfl⟩
    | false =>
      refine List.any_eq_false.mpr fun y hy => ?_
      rw [(h y hy).elim id id]
      exact Bool.false_ne_true

namespace FilterNode

variable {source column : String} {v w : Condition → Bool} {combinator : Combinator}
  {entries : List FilterNode}

/-! ## The truth of a group -/

/-- The conditions of several nodes are those of each of them. -/
theorem mem_leavesOf {ns : List FilterNode} {c : Condition} :
    c ∈ leavesOf ns ↔ ∃ n ∈ ns, c ∈ leaves n := by
  rw [leavesOf_eq_flatMap, List.mem_flatMap]

/-- The values of a group's entries are those of the entries that hold conditions. -/
theorem valuesOf_eq_map (v : Condition → Bool) (ns : List FilterNode) :
    valuesOf v ns = (ns.filter fun n => !(leaves n).isEmpty).map (holds v) := by
  induction ns with
  | nil => rfl
  | cons n ns ih =>
    rw [valuesOf, ih, List.filter_cons]
    cases (leaves n).isEmpty <;> rfl

/-- A value of several nodes is that of one that holds conditions. -/
theorem mem_valuesOf {ns : List FilterNode} {x : Bool} :
    x ∈ valuesOf v ns ↔ ∃ n ∈ ns, leaves n ≠ [] ∧ holds v n = x := by
  simp [valuesOf_eq_map, and_assoc]

/-- A conjunction holds if each of its entries does that holds conditions. -/
theorem holds_conjunction_iff :
    holds v (.group .and entries) = true ↔ ∀ n ∈ entries, leaves n ≠ [] → holds v n = true := by
  rw [holds, Combinator.combine, List.all_eq_true]
  constructor
  · intro h n hn hne
    exact h _ (mem_valuesOf.mpr ⟨n, hn, hne, rfl⟩)
  · intro h x hx
    obtain ⟨n, hn, hne, rfl⟩ := mem_valuesOf.mp hx
    exact h n hn hne

/-- A disjunction holds if one of its entries does that holds conditions. -/
theorem holds_disjunction_iff :
    holds v (.group .or entries) = true ↔ ∃ n ∈ entries, leaves n ≠ [] ∧ holds v n = true := by
  rw [holds, Combinator.combine, List.any_eq_true]
  simp only [id, exists_eq_right, mem_valuesOf]

/-- A group is as true as one of its entries if the others are like it or make no difference. -/
theorem holds_group_eq {n : FilterNode} (hn : n ∈ entries) (hne : leaves n ≠ [])
    (h : ∀ m ∈ entries, leaves m ≠ [] → holds v m = holds v n ∨ holds v m = combinator.neutral) :
    holds v (.group combinator entries) = holds v n := by
  rw [holds]
  refine combinator.combine_eq (mem_valuesOf.mpr ⟨n, hn, hne, rfl⟩) fun x hx => ?_
  obtain ⟨m, hm, hmne, rfl⟩ := mem_valuesOf.mp hx
  exact h m hm hmne

mutual

/-- The truth of a node depends only on its conditions. -/
theorem holds_congr : ∀ n : FilterNode, (∀ c ∈ leaves n, v c = w c) → holds v n = holds w n
  | .condition c, h => by
    rw [holds, holds]
    exact h c (by simp [leaves])
  | .group combinator entries, h => by
    rw [holds, holds, valuesOf_congr entries (by simpa only [leaves] using h)]

/-- The values of several nodes depend only on what their conditions are worth. -/
theorem valuesOf_congr : ∀ ns : List FilterNode,
    (∀ c ∈ leavesOf ns, v c = w c) → valuesOf v ns = valuesOf w ns
  | [], _ => rfl
  | n :: ns, h => by
    rw [leavesOf, List.forall_mem_append] at h
    rw [valuesOf, valuesOf, holds_congr n h.1, valuesOf_congr ns h.2]

end

mutual

/-- A node whose conditions all have one truth value has that value. -/
theorem holds_of_forall {b : Bool} : ∀ n : FilterNode,
    (∀ c ∈ leaves n, v c = b) → leaves n ≠ [] → holds v n = b
  | .condition c, h, _ => by
    rw [holds]
    exact h c (by simp [leaves])
  | .group combinator entries, h, hne => by
    rw [leaves] at h hne
    obtain ⟨n, hn, hnne, hvalue⟩ := exists_holds_of_forall entries h hne
    -- an entry with conditions has the value, and so have all the others
    rw [← hvalue]
    refine holds_group_eq hn hnne fun m hm hmne => .inl ?_
    rw [hvalue]
    exact holds_of_forall m (fun c hc => h c (mem_leavesOf.mpr ⟨m, hm, hc⟩)) hmne

/-- Among several nodes whose conditions all have one truth value there is one of that value, if any
holds conditions. -/
theorem exists_holds_of_forall {b : Bool} : ∀ ns : List FilterNode,
    (∀ c ∈ leavesOf ns, v c = b) → leavesOf ns ≠ [] →
      ∃ n ∈ ns, leaves n ≠ [] ∧ holds v n = b
  | [], _, hne => absurd rfl hne
  | n :: ns, h, hne => by
    rw [leavesOf, List.forall_mem_append] at h
    -- a node without conditions has no value, so a later one is taken
    by_cases hn : leaves n = []
    · rw [leavesOf, hn, List.nil_append] at hne
      obtain ⟨m, hm, hvalue⟩ := exists_holds_of_forall ns h.2 hne
      exact ⟨m, List.mem_cons_of_mem _ hm, hvalue⟩
    · exact ⟨n, List.mem_cons_self, hn, holds_of_forall n h.1 hn⟩

end

/-- A group is as true as one of its entries if the conditions of the others make no difference. -/
theorem holds_group_of_neutral {n : FilterNode} (hn : n ∈ entries) (hne : leaves n ≠ [])
    (h : ∀ m ∈ entries, m ≠ n → ∀ c ∈ leaves m, v c = combinator.neutral) :
    holds v (.group combinator entries) = holds v n := by
  refine holds_group_eq hn hne fun m hm hmne => ?_
  by_cases heq : m = n
  · exact .inl (congrArg _ heq)
  · exact .inr (holds_of_forall m (h m hm heq) hmne)

/-! ## What is left of a disjunction -/

/-- The alternatives among the entries all keep a condition, or all lose all of theirs. -/
def losesNoneOrAll (source column : String) (entries : List FilterNode) : Bool :=
  (leavesOf entries).all (fun c => sameColumn source c.column column) ||
    entries.all fun n => (leaves n).isEmpty ||
      (leaves n).any fun c => !sameColumn source c.column column

mutual

/-- Whether no disjunction in the node loses an alternative to the column and keeps another. -/
def keepsAlternatives (source column : String) : FilterNode → Bool
  | .condition _ => true
  | .group combinator entries =>
    (combinator == .and || losesNoneOrAll source column entries) &&
      allKeepAlternatives source column entries

/-- Whether no disjunction in the nodes loses an alternative to the column and keeps another. -/
def allKeepAlternatives (source column : String) : List FilterNode → Bool
  | [] => true
  | n :: ns => keepsAlternatives source column n && allKeepAlternatives source column ns

end

/-- Several nodes keep their alternatives if each of them does. -/
theorem allKeepAlternatives_eq_all (source column : String) (ns : List FilterNode) :
    allKeepAlternatives source column ns = ns.all (keepsAlternatives source column) := by
  induction ns with
  | nil => rfl
  | cons n ns ih => rw [allKeepAlternatives, ih, List.all_cons]

/-- A group keeps its alternatives if its entries do and, as a disjunction, it loses none or all. -/
theorem keepsAlternatives_group_iff :
    keepsAlternatives source column (.group combinator entries) = true ↔
      (combinator = .and ∨ losesNoneOrAll source column entries = true) ∧
        ∀ n ∈ entries, keepsAlternatives source column n = true := by
  rw [keepsAlternatives, allKeepAlternatives_eq_all, Bool.and_eq_true, Bool.or_eq_true,
    beq_iff_eq, List.all_eq_true]

/-- In terms of what is left: nothing of the entries, or something of each alternative. -/
theorem losesNoneOrAll_iff :
    losesNoneOrAll source column entries = true ↔ stripAll source column entries = [] ∨
      ∀ n ∈ entries, leaves n ≠ [] → ∃ m, strip? source column n = some m := by
  -- all conditions are on the column exactly if nothing is left
  have hall : (leavesOf entries).all (fun c => sameColumn source c.column column) = true ↔
      stripAll source column entries = [] := by
    rw [List.all_eq_true, stripAll_eq_filterMap, List.filterMap_eq_nil_iff]
    constructor
    · intro h n hn
      exact strip?_eq_none_iff.mpr fun c hc => h c (mem_leavesOf.mpr ⟨n, hn, hc⟩)
    · intro h c hc
      obtain ⟨n, hn, hc⟩ := mem_leavesOf.mp hc
      exact strip?_eq_none_iff.mp (h n hn) c hc
  -- something is left of an entry exactly if one of its conditions is on another column
  have hsome : ∀ n, (∃ m, strip? source column n = some m) ↔
      ∃ c ∈ leaves n, sameColumn source c.column column = false := by
    intro n
    rw [← Option.isSome_iff_exists, Option.isSome_iff_ne_none, ne_eq, strip?_eq_none_iff]
    simp
  rw [losesNoneOrAll, Bool.or_eq_true, hall, List.all_eq_true]
  simp only [hsome, Bool.or_eq_true, List.isEmpty_iff, List.any_eq_true, Bool.not_eq_true',
    or_iff_not_imp_left, ne_eq]

/-! ## Rows that stay, and rows that are hidden -/

/-- The conditions that are left of a node are conditions of it, and not on the column. -/
theorem mem_leaves_of_strip? {n m : FilterNode} (h : strip? source column n = some m) :
    ∀ c ∈ leaves m, c ∈ leaves n ∧ sameColumn source c.column column = false := by
  have hleft : (strip? source column n).toList.flatMap leaves = _ := leaves_strip? n
  rw [h, Option.toList_some, List.flatMap_singleton] at hleft
  intro c hc
  rw [hleft, List.mem_filter] at hc
  simpa using hc

/-- A node of which something is left holds conditions. -/
theorem leaves_ne_nil_of_left {n m : FilterNode} (h : strip? source column n = some m) :
    leaves n ≠ [] := by
  obtain ⟨c, hc⟩ := List.exists_mem_of_ne_nil _ (leaves_ne_nil_of_strip? n h)
  exact List.ne_nil_of_mem (mem_leaves_of_strip? h c hc).1

/-- What is left of a node holds where the node does, if its disjunctions keep their
alternatives. -/
theorem holds_strip? : ∀ (n : FilterNode) {m : FilterNode},
    keepsAlternatives source column n = true → strip? source column n = some m →
      holds v n = true → holds v m = true
  | .condition c, m, _, hm, h => by
    obtain ⟨-, rfl⟩ := strip?_condition_eq_some_iff.mp hm
    exact h
  | .group combinator entries, m, hkeeps, hm, h => by
    obtain ⟨hne, rfl⟩ := strip?_group_eq_some_iff.mp hm
    obtain ⟨hown, hentries⟩ := keepsAlternatives_group_iff.mp hkeeps
    have hstep : ∀ n ∈ entries, ∀ m, strip? source column n = some m → holds v n = true →
        holds v m = true := fun n hn m => holds_strip? n (hentries n hn)
    cases combinator with
    | and =>
      rw [holds_conjunction_iff] at h ⊢
      intro m hm _
      -- what is left of an entry holds as the entry did
      obtain ⟨n, hn, hm⟩ := mem_stripAll.mp hm
      exact hstep n hn m hm (h n hn (leaves_ne_nil_of_left hm))
    | or =>
      rw [holds_disjunction_iff] at h ⊢
      obtain ⟨n, hn, hnne, hvalue⟩ := h
      -- the alternative that holds is still there, for not all are gone
      have hkept := (losesNoneOrAll_iff.mp (hown.resolve_left (by decide))).resolve_left hne
      obtain ⟨m, hm⟩ := hkept n hn hnne
      exact ⟨m, mem_stripAll.mpr ⟨n, hn, hm⟩, leaves_ne_nil_of_strip? n hm,
        hstep n hn m hm hvalue⟩

/-- An assignment can be changed outside of a node at will. -/
theorem exists_outside (v : Condition → Bool) (n : FilterNode) (b : Bool) :
    ∃ w : Condition → Bool, (∀ c ∈ leaves n, w c = v c) ∧ ∀ c, c ∉ leaves n → w c = b := by
  classical
  exact ⟨fun c => if c ∈ leaves n then v c else b, fun c hc => if_pos hc, fun c hc => if_neg hc⟩

/-- Without a repeated condition, entries of a group that are not the same share none. -/
theorem not_mem_leaves_of_ne (hnodup : (leavesOf entries).Nodup) {n m : FilterNode}
    (hn : n ∈ entries) (hm : m ∈ entries) (hne : m ≠ n) : ∀ c ∈ leaves m, c ∉ leaves n := by
  rw [leavesOf_eq_flatMap, List.nodup_flatMap] at hnodup
  have hsymm : Std.Symm (Function.onFun List.Disjoint leaves) := ⟨fun _ _ h _ hc hc' => h hc' hc⟩
  exact fun c hc hc' => hnodup.2.forall hm hn hne hc hc'

/-- A disjunction that loses an alternative and keeps another hides a row: one that meets just the
conditions on the column. -/
theorem exists_hidden_of_loses (h : ¬ losesNoneOrAll source column entries = true) :
    ∃ v m, strip? source column (.group .or entries) = some m ∧
      holds v (.group .or entries) = true ∧ holds v m = false := by
  rw [losesNoneOrAll_iff] at h
  push Not at h
  obtain ⟨hne, n, hn, hnne, hnone⟩ := h
  have hleft : strip? source column (.group .or entries) = _ :=
    strip?_group_eq_some_iff.mpr ⟨hne, rfl⟩
  refine ⟨fun c => sameColumn source c.column column, _, hleft, ?_, ?_⟩
  · -- the alternative that is lost holds, as all its conditions are on the column
    have hlost := strip?_eq_none_iff.mp (Option.eq_none_iff_forall_ne_some.mpr hnone)
    exact holds_disjunction_iff.mpr ⟨n, hn, hnne, holds_of_forall n hlost hnne⟩
  · -- what is left holds conditions on other columns only, and these are false
    exact holds_of_forall _ (fun c hc => (mem_leaves_of_strip? hleft c hc).2)
      (leaves_ne_nil_of_strip? _ hleft)

/-- A row that is hidden in an entry is hidden in the group, if the row is changed such that the
other entries make no difference. -/
theorem exists_hidden_of_entry (hnodup : (leavesOf entries).Nodup) {n m : FilterNode}
    (hn : n ∈ entries) (hm : strip? source column n = some m) (hholds : holds v n = true)
    (hfails : holds v m = false) :
    ∃ w k, strip? source column (.group combinator entries) = some k ∧
      holds w (.group combinator entries) = true ∧ holds w k = false := by
  obtain ⟨w, hsame, houtside⟩ := exists_outside v n combinator.neutral
  have hmem : m ∈ stripAll source column entries := mem_stripAll.mpr ⟨n, hn, hm⟩
  have hother : ∀ k ∈ entries, k ≠ n → ∀ c ∈ leaves k, w c = combinator.neutral :=
    fun k hk hne c hc => houtside c (not_mem_leaves_of_ne hnodup hn hk hne c hc)
  have hsame' : ∀ c ∈ leaves m, w c = v c := fun c hc => hsame c (mem_leaves_of_strip? hm c hc).1
  -- what is left of the other entries holds no other conditions than they do
  have hother' : ∀ k ∈ stripAll source column entries, k ≠ m →
      ∀ c ∈ leaves k, w c = combinator.neutral := by
    intro k hk hne c hc
    obtain ⟨k', hk', hleft⟩ := mem_stripAll.mp hk
    refine hother k' hk' ?_ c (mem_leaves_of_strip? hleft c hc).1
    rintro rfl
    exact hne (Option.some.inj (hleft.symm.trans hm))
  refine ⟨w, _, strip?_group_eq_some_iff.mpr ⟨List.ne_nil_of_mem hmem, rfl⟩, ?_, ?_⟩
  · -- with the other entries neutral the group is worth what this entry is
    rw [holds_group_of_neutral hn (leaves_ne_nil_of_left hm) hother, holds_congr n hsame, hholds]
  · rw [holds_group_of_neutral hmem (leaves_ne_nil_of_strip? n hm) hother', holds_congr m hsame',
      hfails]

/-- If a disjunction loses an alternative and keeps another, some row that the node lets pass is
hidden by what is left of it. -/
theorem exists_hidden : ∀ n : FilterNode, (leaves n).Nodup →
    ¬ keepsAlternatives source column n = true →
      ∃ v m, strip? source column n = some m ∧ holds v n = true ∧ holds v m = false
  | .condition c, _, h => absurd rfl h
  | .group combinator entries, hnodup, h => by
    rw [leaves] at hnodup
    by_cases hentries : ∀ n ∈ entries, keepsAlternatives source column n = true
    · -- the group itself is the disjunction
      cases combinator with
      | and => exact absurd (keepsAlternatives_group_iff.mpr ⟨.inl rfl, hentries⟩) h
      | or =>
        exact exists_hidden_of_loses fun hloses =>
          h (keepsAlternatives_group_iff.mpr ⟨.inr hloses, hentries⟩)
    · push Not at hentries
      obtain ⟨n, hn, hkeeps⟩ := hentries
      have hinside : (leaves n).Nodup := by
        rw [leavesOf_eq_flatMap, List.nodup_flatMap] at hnodup
        exact hnodup.1 n hn
      obtain ⟨v, m, hm, hholds, hfails⟩ := exists_hidden n hinside hkeeps
      exact exists_hidden_of_entry hnodup hn hm hholds hfails

end FilterNode

namespace FilterGroup

/-- Whether a row passes a filter, if `v` says which conditions it meets.  Without a condition every
row does. -/
def passes (v : Condition → Bool) (g : FilterGroup) : Bool := g.leaves.isEmpty || g.holds v

/-- Whether no disjunction of the filter, at any depth, loses an alternative to the column and keeps
another. -/
def keepsAlternatives (source column : String) (g : FilterGroup) : Bool :=
  g.toNode.keepsAlternatives source column

/-- A filter without a column lets every row pass that the filter does, if no disjunction loses an
alternative and keeps another.  Without a repeated condition that is needed as well. -/
theorem passes_strip (g : FilterGroup) (source column : String) :
    (g.keepsAlternatives source column = true →
        ∀ v, g.passes v = true → (g.strip source column).passes v = true) ∧
      (g.leaves.Nodup → (∀ v, g.passes v = true → (g.strip source column).passes v = true) →
        g.keepsAlternatives source column = true) := by
  -- the filter is the node that it is as an entry
  have hleaves : ∀ g : FilterGroup, g.leaves = g.toNode.leaves := fun _ => rfl
  have hholds : ∀ (g : FilterGroup) v, g.holds v = g.toNode.holds v := fun _ _ => rfl
  have hstrip : ∀ {m}, g.toNode.strip? source column = some m ↔
      FilterNode.stripAll source column g.entries ≠ [] ∧ m = (g.strip source column).toNode :=
    FilterNode.strip?_group_eq_some_iff
  constructor
  · intro hkeeps v h
    by_cases hne : FilterNode.stripAll source column g.entries = []
    · simp [passes, leaves, strip, hne, FilterNode.leavesOf]
    · have hleft := hstrip.mpr ⟨hne, rfl⟩
      -- something is left, so the filter has a condition, and passing it means that it holds
      have hnode : g.toNode.holds v = true := by
        simpa [passes, hleaves, hholds, FilterNode.leaves_ne_nil_of_left hleft] using h
      simp [passes, hholds, FilterNode.holds_strip? _ hkeeps hleft hnode]
  · intro hnodup hall
    by_contra hnot
    obtain ⟨v, m, hleft, hnode, hfails⟩ := FilterNode.exists_hidden g.toNode hnodup hnot
    obtain ⟨-, rfl⟩ := hstrip.mp hleft
    have hpasses := hall v (by simp [passes, hholds, hnode])
    simp [passes, hleaves, hholds, FilterNode.leaves_ne_nil_of_strip? _ hleft, hfails] at hpasses

/-- A choice in which one of two alternatives has a condition on the status, beside another. -/
def choiceSample : FilterGroup :=
  ⟨.and, [.condition ⟨"orders.status", "=", .str "Active"⟩,
    .group .or [.condition ⟨"amount", ">", .int 1⟩,
      .group .and [.condition ⟨"status", "!=", .str "x"⟩,
        .condition ⟨"city", "IS NULL", .null⟩]]]⟩

/-- The sample keeps its alternatives, so its rows pass without the column. -/
theorem choiceSample_passes :
    choiceSample.keepsAlternatives "orders" "status" = true ∧
      ∀ v, choiceSample.passes v = true →
        (choiceSample.strip "orders" "status").passes v = true := by
  have hkeeps : choiceSample.keepsAlternatives "orders" "status" = true := by decide
  have hnodup : choiceSample.leaves.Nodup := by
    simp [choiceSample, leaves, FilterNode.leavesOf, FilterNode.leaves]
  have hpasses := (passes_strip choiceSample "orders" "status").1 hkeeps
  exact ⟨(passes_strip choiceSample "orders" "status").2 hnodup hpasses, hpasses⟩

/-- A choice between a condition on the status and one on the amount. -/
def eitherSample : FilterGroup :=
  ⟨.or, [.condition ⟨"status", "=", .str "Active"⟩, .condition ⟨"amount", ">", .int 1⟩]⟩

/-- A row that meets only the condition on the status is hidden. -/
theorem eitherSample_hides :
    ¬ ∀ v, eitherSample.passes v = true →
      (eitherSample.strip "orders" "status").passes v = true := by
  intro h
  exact absurd (h (fun c => c.column == "status") (by decide)) (by decide)

end FilterGroup

end DashQuery
