import DashQuery.Proofs.Filter.Grammar

/-!
# What a predicate means

A filter is a tree: a group is the conjunction or disjunction of its entries, and
entries without a condition do not count.  Its predicate is text.  Read with the
grammar of predicates, its values put in, the text is a formula that is true of
the same assignments to atoms as the tree.

## Key results

- `FilterNode.operand?_slots`: a node that holds a condition is read as an operand
- `FilterGroup.predicate_means`: the predicate of a filter means the filter
-/

namespace DashQuery

namespace FilterNode

mutual

/-- The truth of a node, if `v` says which conditions are true. -/
def holds (v : Condition → Bool) : FilterNode → Bool
  | .condition c => v c
  | .group combinator entries => combinator.combine (valuesOf v entries)

/-- The truth of those of several nodes that hold a condition. -/
def valuesOf (v : Condition → Bool) : List FilterNode → List Bool
  | [] => []
  | n :: ns => if (leaves n).isEmpty then valuesOf v ns else holds v n :: valuesOf v ns

end

end FilterNode

/-- The truth of a filter, if `v` says which conditions are true. -/
def FilterGroup.holds (v : Condition → Bool) (g : FilterGroup) : Bool :=
  g.combinator.combine (FilterNode.valuesOf v g.entries)

/-- The truth of a condition is the truth of its atom. -/
def Condition.truth (scope : Scope) (v : Atom → Bool) (c : Condition) : Bool :=
  (c.atom? scope).any v

namespace FilterNode

/-- A condition with a predicate is read as its atom. -/
theorem operand?_condition {scope : Scope} {c : Condition} {b : BoundText}
    (h : c.predicate scope = .ok b) :
    ∃ f, (∀ r, Formula.Yields (Formula.operand? (c.slots scope ++ r)) f r) ∧
      ∀ v, f.eval v = c.truth scope v := by
  obtain ⟨a, hatom, hfits⟩ := Condition.atom?_of_predicate h
  refine ⟨.atom a, fun r => ?_, fun v => ?_⟩
  · rw [Condition.slots, hatom]
    exact Formula.operand?_slots hfits r
  · rw [Condition.truth, hatom]
    rfl

/-- No keyword stands in front of what follows a group. -/
theorem ends_rightParen (r : List Slot) : Formula.Ends (.fixed .rightParen :: r) := by
  intro combinator slot hslot
  simp only [List.head?_cons, Option.mem_some_iff] at hslot
  rw [← hslot]
  cases combinator <;> decide

mutual

/-- A node that holds a condition is read as an operand, and as true exactly if it holds. -/
theorem operand?_slots {scope : Scope} : ∀ (n : FilterNode),
    (∀ c ∈ leaves n, ∃ b, c.predicate scope = .ok b) → leaves n ≠ [] →
    ∃ f, (∀ r, Formula.Yields (Formula.operand? (slots scope n ++ r)) f r) ∧
      ∀ v, f.eval v = holds (Condition.truth scope v) n
  | .condition c, h, _ => by
    obtain ⟨b, hb⟩ := h c (by simp [leaves])
    simp only [slots, holds]
    exact operand?_condition hb
  | .group combinator entries, h, hne => by
    -- a group with a condition inside shows something, so it keeps its parentheses
    have hslots : slots scope (.group combinator entries) ≠ [] := by
      intro hnil
      refine hne ((slots_eq_nil_iff _ fun c hc => ?_).mp hnil)
      obtain ⟨b, hb⟩ := h c hc
      exact Condition.slots_ne_nil hb
    -- the entries are operands, and the combinator joins them
    obtain ⟨fs, hparts, hvalues⟩ := operands_slotsOf entries (by simpa [leaves] using h)
    rw [slots, ne_eq, enclose_eq_nil_iff] at hslots
    have hkept : (slotsOf scope entries).filter (fun u => !u.isEmpty) ≠ [] := by
      intro hnil
      exact hslots (by rw [joinSlots, hnil]; rfl)
    obtain ⟨f, hf, hvalue⟩ := Formula.disjunction?_joined combinator hparts hkept
    refine ⟨f, fun r => ?_, fun v => ?_⟩
    · rw [slots, enclose, if_neg (by simpa using hslots), List.cons_append, List.append_assoc]
      exact Formula.operand?_parens (hf _ (ends_rightParen r))
    · rw [hvalue, hvalues, holds]

/-- Those of several nodes that hold a condition are read as operands, one by one. -/
theorem operands_slotsOf {scope : Scope} : ∀ (ns : List FilterNode),
    (∀ c ∈ leavesOf ns, ∃ b, c.predicate scope = .ok b) →
    ∃ fs, List.Forall₂ (fun u f => ∀ r, Formula.Yields (Formula.operand? (u ++ r)) f r)
        ((slotsOf scope ns).filter fun u => !u.isEmpty) fs ∧
      ∀ v, fs.map (Formula.eval v) = valuesOf (Condition.truth scope v) ns
  | [], _ => ⟨[], .nil, fun _ => rfl⟩
  | n :: ns, h => by
    have hn : ∀ c ∈ leaves n, ∃ b, c.predicate scope = .ok b :=
      fun c hc => h c (by simp [leavesOf, hc])
    obtain ⟨fs, hparts, hvalues⟩ :=
      operands_slotsOf ns fun c hc => h c (by simp [leavesOf, hc])
    have hnil := slots_eq_nil_iff n fun c hc => (hn c hc).elim fun b hb => Condition.slots_ne_nil hb
    simp only [slotsOf, valuesOf, List.filter_cons]
    -- a node without a condition is left out of the slots and of the truth values alike
    by_cases hleaves : leaves n = []
    · refine ⟨fs, ?_, fun v => ?_⟩
      · rw [hnil.mpr hleaves]
        exact hparts
      · rw [hleaves]
        exact hvalues v
    -- a node with a condition is one operand more
    · obtain ⟨f, hf, hvalue⟩ := operand?_slots n hn hleaves
      have hslots : slots scope n ≠ [] := fun h => hleaves (hnil.mp h)
      refine ⟨f :: fs, ?_, fun v => ?_⟩
      · rw [if_pos (by simpa using hslots)]
        exact .cons hf hparts
      · rw [if_neg (by simpa using hleaves), List.map_cons, hvalue, hvalues]

end

end FilterNode

/-- The predicate of a filter means the filter.  Without a condition it is empty; else its text is a
formula over the atoms of the conditions that is true of the same assignments as the filter. -/
theorem FilterGroup.predicate_means {bounds : FilterBounds} {scope : Scope} {g : FilterGroup}
    {b : BoundText} (h : g.predicate bounds scope = .ok b) :
    (g.leaves = [] → b.text = "" ∧ b.params = []) ∧
      (g.leaves ≠ [] → ∃ f, Formula.parse? (fill (words b.text) b.params) = some f ∧
        (∀ c ∈ g.leaves, (c.atom? scope).isSome = true) ∧
        ∀ v : Atom → Bool, f.eval v = g.holds (Condition.truth scope v)) := by
  have hshows := shows_predicate h
  have hchecked := leaves_checked h
  constructor
  · -- without a condition there is nothing to write
    intro hleaves
    have hnil := (slots_eq_nil_iff h).mpr hleaves
    exact ⟨hshows.text_nil hnil, by rw [hshows.params, hnil]; rfl⟩
  · -- the operands are those of the entries that write something
    intro hleaves
    obtain ⟨fs, hparts, hvalues⟩ := FilterNode.operands_slotsOf g.entries hchecked
    have hkept : (FilterNode.slotsOf scope g.entries).filter (fun u => !u.isEmpty) ≠ [] := by
      intro hnil
      exact hleaves ((slots_eq_nil_iff h).mp (by rw [slots, joinSlots, hnil]; rfl))
    -- they are joined by the combinator, and read back under it
    obtain ⟨f, hf, hvalue⟩ := Formula.disjunction?_joined g.combinator hparts hkept
    refine ⟨f, ?_, fun c hc => ?_, fun v => ?_⟩
    · -- the formula is all of the text
      rw [hshows.fill_words]
      have hall := hf [] (by simp [Formula.Ends])
      rw [List.append_nil] at hall
      exact Formula.parse?_eq_some hall
    · -- each condition compiles, and so is an atom
      obtain ⟨b, hb⟩ := hchecked c hc
      obtain ⟨a, hatom, -⟩ := Condition.atom?_of_predicate hb
      rw [hatom]
      rfl
    · -- both are true together
      rw [hvalue, hvalues, holds]

/-- A range beside a nested conjunction that holds an empty group. -/
def FilterGroup.nestedSample : FilterGroup :=
  ⟨.or, [.condition ⟨"age", "BETWEEN", .arr [.int 18, .int 30]⟩,
    .group .and [.condition ⟨"age", ">", .int 3⟩, .group .or [],
      .condition ⟨"city", "IS NULL", .null⟩]]⟩

/-- An `AND` inside an `OR`, with a range whose own `AND` joins nothing. -/
theorem FilterGroup.nestedSample_means :
    FilterGroup.nestedSample.predicate ⟨10, 100⟩ (Scope.ofNames ["age", "city"]) =
        .ok ⟨"\"age\" BETWEEN ? AND ? OR (\"age\" > ? AND \"city\" IS NULL)",
          [.int 18, .int 30, .int 3]⟩ ∧
      ∃ f, Formula.parse? (fill
          (words "\"age\" BETWEEN ? AND ? OR (\"age\" > ? AND \"city\" IS NULL)")
          [.int 18, .int 30, .int 3]) = some f ∧
        ∀ v, f.eval v =
          FilterGroup.nestedSample.holds (Condition.truth (Scope.ofNames ["age", "city"]) v) := by
  have h : FilterGroup.nestedSample.predicate ⟨10, 100⟩ (Scope.ofNames ["age", "city"]) =
      .ok ⟨"\"age\" BETWEEN ? AND ? OR (\"age\" > ? AND \"city\" IS NULL)",
        [.int 18, .int 30, .int 3]⟩ := rfl
  obtain ⟨f, hf, -, hvalue⟩ := (FilterGroup.predicate_means h).2 (by decide)
  exact ⟨h, f, hf, hvalue⟩

end DashQuery
