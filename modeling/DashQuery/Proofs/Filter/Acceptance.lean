import DashQuery.Proofs.Filter.Checks

/-!
# Which filters have a predicate

A filter has a predicate exactly if every node in it is admissible: a group stands
within the bounds, and a condition has a valid and legal column, a known operator
and a value that this operator takes.  Otherwise the error is about the first node
that is not, where a group comes before its entries.  Depth grows by one from a group
to a group in it, so the first group that stands too deep does so by exactly one.

## Key results

- `Condition.forall_checks_iff`: the checks of a condition pass if it is admissible
- `FilterNode.checks_eq_flatMap`: the checks of a filter are those of its nodes, in order
- `FilterNode.tooDeep_of_checks`: the depth that is reported
- `FilterGroup.predicate_admits`: which filters have a predicate, and the error of the others
-/

namespace DashQuery

/-! ## What a condition needs -/

/-- A text, a truth value or a number. -/
def Json.IsScalar : Json → Prop
  | .str _ | .bool _ | .int _ | .double _ => True
  | .null | .arr _ | .obj _ => False

/-- The values that an operator takes: any for the null tests, a list of scalars that is not empty
for the membership tests, two scalars for a range, a text for a pattern, and one scalar for a
comparison. -/
def Operator.Takes (op : Operator) (value : Json) : Prop :=
  match op with
  | isNull | isNotNull => True
  | isIn | notIn => ∃ values, value = .arr values ∧ values ≠ [] ∧ ∀ v ∈ values, v.IsScalar
  | between => ∃ low high, value = .arr [low, high] ∧ low.IsScalar ∧ high.IsScalar
  | like | notLike => ∃ pattern, value = .str pattern
  | eq | notEq | gt | lt | gte | lte => value.IsScalar

/-- Nothing is wrong with the condition. -/
structure Condition.Admissible (scope : Scope) (c : Condition) : Prop where
  valid : Name.isValid c.column = true
  legal : scope.contains c.column = true
  /-- The form in which the column is written is a valid name as well. -/
  written : Name.isValid (scope.resolve c.column) = true
  takes : ∃ op : Operator, c.operator = op.text ∧ op.Takes c.value

/-- A placeholder can stand for a scalar, and for nothing else. -/
theorem Param.isSome_ofJson?_iff {value : Json} :
    (Param.ofJson? value).isSome = true ↔ value.IsScalar := by
  cases value <;> simp [Param.ofJson?, Json.IsScalar]

namespace Condition

variable {scope : Scope} {c : Condition} {op : Operator}

/-- An operator with one operand takes any scalar. -/
theorem scalarCheck_eq_ok_iff {value : Json} :
    c.scalarCheck op value = .ok () ↔ value.IsScalar := by
  rw [scalarCheck, Check.require_eq_ok_iff, Param.isSome_ofJson?_iff]

/-- The checks of a value pass if the operator takes it. -/
theorem forall_valueChecks_iff :
    (∀ check ∈ c.valueChecks op, check = .ok ()) ↔ op.Takes c.value := by
  cases op with
  | isNull | isNotNull => simp [valueChecks, Operator.Takes]
  | isIn | notIn =>
    unfold valueChecks Operator.Takes
    cases c.value <;> simp [scalarCheck_eq_ok_iff]
  | between =>
    unfold valueChecks Operator.Takes
    cases c.value with
    | arr values =>
      -- only a list of two has scalars to check
      rcases values with _ | ⟨low, _ | ⟨high, _ | ⟨other, others⟩⟩⟩ <;>
        simp [scalarCheck_eq_ok_iff]
    | _ => simp
  | like | notLike =>
    unfold valueChecks Operator.Takes
    cases c.value <;> simp [Json.string?]
  | eq | notEq | gt | lt | gte | lte =>
    simp [valueChecks, Operator.Takes, scalarCheck_eq_ok_iff]

/-- A condition passes exactly if its operator is known and takes the value. -/
theorem forall_operatorChecks_iff :
    (∀ check ∈ c.operatorChecks, check = .ok ()) ↔
      ∃ op : Operator, c.operator = op.text ∧ op.Takes c.value := by
  unfold operatorChecks
  cases hop : Operator.all.find? fun op => op.text == c.operator with
  | none =>
    -- every operator is in the list, so none has this text
    have hnone : ∀ op : Operator, c.operator ≠ op.text := by
      intro op heq
      have hne := List.find?_eq_none.mp hop op op.mem_all
      simp [heq] at hne
    simp [hnone]
  | some op =>
    have hbeq := List.find?_some hop
    have htext : c.operator = op.text := (beq_iff_eq.mp hbeq).symm
    rw [forall_valueChecks_iff]
    constructor
    · exact fun htakes => ⟨op, htext, htakes⟩
    · rintro ⟨other, hother, htakes⟩
      -- no two operators have one text
      have hsame : op = other := by
        have hparse := Operator.parse_text op
        rw [← htext, hother, Operator.parse_text] at hparse
        exact (Except.ok.inj hparse).symm
      exact hsame ▸ htakes

/-- The checks of a condition pass if it is admissible. -/
theorem forall_checks_iff :
    (∀ check ∈ c.checks scope, check = .ok ()) ↔ c.Admissible scope := by
  simp only [checks, List.cons_append, List.nil_append, List.forall_mem_cons,
    Name.check_eq_ok_iff, Scope.check_eq_ok_iff, forall_operatorChecks_iff]
  constructor
  · rintro ⟨hvalid, hlegal, hwritten, htakes⟩
    exact ⟨hvalid, hlegal, hwritten, htakes⟩
  · exact fun h => ⟨h.valid, h.legal, h.written, h.takes⟩

end Condition

/-! ## What a node needs -/

namespace FilterNode

/-- Nothing is wrong with a node at this depth, whatever may be wrong with the nodes in it. -/
def Admissible (bounds : FilterBounds) (scope : Scope) (depth : Nat) : FilterNode → Prop
  | .condition c => c.Admissible scope
  | .group _ entries => depth ≤ bounds.maxDepth ∧ entries.length ≤ bounds.maxConditions

/-- The checks of a node at this depth, without those of the nodes in it. -/
def ownChecks (bounds : FilterBounds) (scope : Scope) (depth : Nat) : FilterNode → List Check
  | .condition c => c.checks scope
  | .group _ entries => bounds.checks depth entries

variable {bounds : FilterBounds} {scope : Scope}

/-- The checks of a node itself pass if it is admissible. -/
theorem forall_ownChecks_iff {depth : Nat} {n : FilterNode} :
    (∀ check ∈ ownChecks bounds scope depth n, check = .ok ()) ↔
      Admissible bounds scope depth n := by
  cases n with
  | condition c => exact Condition.forall_checks_iff
  | group combinator entries => simp [ownChecks, FilterBounds.checks, Admissible]

mutual

/-- The checks of a node are those of the nodes in it, each by itself. -/
theorem checks_eq_flatMap {depth : Nat} : (n : FilterNode) →
    checks bounds scope depth n =
      (nodes (depth + 1) n).flatMap fun p => ownChecks bounds scope p.1 p.2
  | .condition c => by rw [checks, nodes, List.flatMap_singleton, ownChecks]
  | .group combinator entries => by
    rw [checks, nodes, List.flatMap_cons, ownChecks, checksOf_eq_flatMap entries]

/-- The same for a list of nodes, one level further down. -/
theorem checksOf_eq_flatMap {depth : Nat} : (ns : List FilterNode) →
    checksOf bounds scope depth ns =
      (nodesOf (depth + 1) ns).flatMap fun p => ownChecks bounds scope p.1 p.2
  | [] => by rw [checksOf, nodesOf, List.flatMap_nil]
  | n :: ns => by
    rw [checksOf, nodesOf, List.flatMap_append, checks_eq_flatMap n, checksOf_eq_flatMap ns]

end

end FilterNode

/-- The checks of a filter are those of the nodes in it, in order. -/
theorem FilterGroup.checks_eq_flatMap (bounds : FilterBounds) (scope : Scope) (g : FilterGroup) :
    g.checks bounds scope =
      g.nodes.flatMap fun p => FilterNode.ownChecks bounds scope p.1 p.2 := by
  rw [checks, nodes, toNode, FilterNode.nodes, List.flatMap_cons, FilterNode.ownChecks,
    FilterNode.checksOf_eq_flatMap]

/-! ## The depth that is reported -/

/-- A group is too deep by one if the group around it is not. -/
theorem FilterBounds.tooDeep_of_checks {bounds : FilterBounds} {depth limit found : Nat}
    {entries : List FilterNode} (hdepth : depth ≤ bounds.maxDepth + 1)
    (h : firstViolation (bounds.checks depth entries) = some (.filterTooDeep found limit)) :
    found = bounds.maxDepth + 1 ∧ limit = bounds.maxDepth := by
  by_cases hdeep : depth ≤ bounds.maxDepth
  -- a group at an allowed depth can only hold too many entries
  · by_cases hsize : entries.length ≤ bounds.maxConditions
    · simp [checks, hdeep, hsize] at h
    · simp [checks, hdeep, hsize] at h
  -- the group is the first one below the limit
  · obtain ⟨rfl, rfl⟩ : depth = found ∧ bounds.maxDepth = limit := by
      simpa [checks, hdeep] using h
    omega

/-- Where a group keeps the bounds, its depth does. -/
theorem FilterBounds.depth_le_of_checks {bounds : FilterBounds} {depth : Nat}
    {entries : List FilterNode} (h : firstViolation (bounds.checks depth entries) = none) :
    depth ≤ bounds.maxDepth := by
  have hpass := firstViolation_eq_none_iff.mp h
  rw [checks, List.forall_mem_cons] at hpass
  exact Check.require_eq_ok_iff.mp hpass.1

/-- Nothing is too deep about a condition. -/
theorem Condition.firstViolation_ne_tooDeep {scope : Scope} {c : Condition} {found limit : Nat} :
    firstViolation (c.checks scope) ≠ some (.filterTooDeep found limit) := by
  intro h
  obtain ⟨before, after, hchecks, -⟩ := firstViolation_eq_some_iff.mp h
  have hmem : .error (.filterTooDeep found limit) ∈ c.checks scope := by simp [hchecks]
  exact c.checks_concern scope _ hmem _ rfl

namespace FilterNode

variable {bounds : FilterBounds} {scope : Scope} {found limit : Nat}

mutual

/-- What is too deep inside a group that is not stands one level below the limit. -/
theorem tooDeep_of_checks {depth : Nat} (hdepth : depth ≤ bounds.maxDepth) : (n : FilterNode) →
    firstViolation (checks bounds scope depth n) = some (.filterTooDeep found limit) →
      found = bounds.maxDepth + 1 ∧ limit = bounds.maxDepth
  | .condition c, h => by
    rw [checks] at h
    exact absurd h Condition.firstViolation_ne_tooDeep
  -- either the group itself is too deep or something in it is
  | .group combinator entries, h => by
    rw [checks, firstViolation_append, Option.or_eq_some_iff] at h
    rcases h with h | ⟨hown, h⟩
    · exact FilterBounds.tooDeep_of_checks (Nat.succ_le_succ hdepth) h
    · exact tooDeep_of_checksOf (FilterBounds.depth_le_of_checks hown) entries h

/-- The same for the first node of a list that is refused. -/
theorem tooDeep_of_checksOf {depth : Nat} (hdepth : depth ≤ bounds.maxDepth) :
    (ns : List FilterNode) →
    firstViolation (checksOf bounds scope depth ns) = some (.filterTooDeep found limit) →
      found = bounds.maxDepth + 1 ∧ limit = bounds.maxDepth
  | [], h => by cases h
  | n :: ns, h => by
    rw [checksOf, firstViolation_append, Option.or_eq_some_iff] at h
    rcases h with h | ⟨-, h⟩
    · exact tooDeep_of_checks hdepth n h
    · exact tooDeep_of_checksOf hdepth ns h

end

end FilterNode

namespace FilterGroup

variable {bounds : FilterBounds} {scope : Scope} {g : FilterGroup}

/-- A filter refused for its depth has a group one level below the limit. -/
theorem tooDeep_of_checks {found limit : Nat}
    (h : firstViolation (g.checks bounds scope) = some (.filterTooDeep found limit)) :
    found = bounds.maxDepth + 1 ∧ limit = bounds.maxDepth := by
  rw [checks, firstViolation_append, Option.or_eq_some_iff] at h
  rcases h with h | ⟨hown, h⟩
  · exact FilterBounds.tooDeep_of_checks (Nat.zero_le _) h
  · exact FilterNode.tooDeep_of_checksOf (FilterBounds.depth_le_of_checks hown) g.entries h

/-- A filter has a predicate exactly if every node in it is admissible at its depth.  Otherwise the
error is what the first check that fails says of the first node that is not; all nodes before it
are.  A group that is refused for its depth stands one level below the deepest one allowed. -/
theorem predicate_admits (bounds : FilterBounds) (scope : Scope) (g : FilterGroup) :
    ((∃ b, g.predicate bounds scope = .ok b) ↔
      ∀ p ∈ g.nodes, p.2.Admissible bounds scope p.1) ∧
    (∀ e, g.predicate bounds scope = .error e ↔ ∃ before p after,
      g.nodes = before ++ p :: after ∧ (∀ r ∈ before, r.2.Admissible bounds scope r.1) ∧
        ∃ passed later, p.2.ownChecks bounds scope p.1 = passed ++ .error e :: later ∧
          ∀ check ∈ passed, check = .ok ()) ∧
    ∀ depth limit, g.predicate bounds scope = .error (.filterTooDeep depth limit) →
      depth = bounds.maxDepth + 1 ∧ limit = bounds.maxDepth := by
  refine ⟨?_, fun e => ?_, fun depth limit h => ?_⟩
  · -- accepted: no check of any node fails
    rw [← failure?_eq_none_iff, failure?_predicate, checks_eq_flatMap, firstViolation_eq_none_iff]
    simp only [List.forall_mem_flatMap, FilterNode.forall_ownChecks_iff]
  · -- refused: the first failing check, and what stands before it
    rw [← failure?_eq_some_iff, failure?_predicate, checks_eq_flatMap,
      firstViolation_flatMap_eq_some_iff]
    simp only [FilterNode.forall_ownChecks_iff, firstViolation_eq_some_iff]
  · -- the depth that is reported
    rw [← failure?_eq_some_iff, failure?_predicate] at h
    exact tooDeep_of_checks h

/-- A filter with a group that is too deep and too large, in front of a condition without the values
that its operator takes. -/
def deepSample : FilterGroup :=
  ⟨.or, [.group .and [.condition ⟨"id", "IN", .arr [.int 1]⟩,
      .group .or [.group .and [], .group .and [], .group .or []]],
    .condition ⟨"id", "BETWEEN", .arr []⟩]⟩

/-- The sample breaks two rules, and the one that is met first is reported. -/
theorem deepSample_refused :
    deepSample.predicate ⟨1, 2⟩ (Scope.ofNames ["id"]) = .error (.filterTooDeep 2 1) ∧
      (¬∀ p ∈ deepSample.nodes, p.2.Admissible ⟨1, 2⟩ (Scope.ofNames ["id"]) p.1) ∧
      2 = FilterBounds.maxDepth ⟨1, 2⟩ + 1 := by
  obtain ⟨haccepted, hrefused, hdepth⟩ :=
    predicate_admits ⟨1, 2⟩ (Scope.ofNames ["id"]) deepSample
  have hcondition : Condition.Admissible (Scope.ofNames ["id"]) ⟨"id", "IN", .arr [.int 1]⟩ :=
    ⟨by decide, rfl, by decide, .isIn, rfl, [.int 1], rfl, by simp, by simp [Json.IsScalar]⟩
  -- the fourth node in order is the first that is not admissible
  have herror : deepSample.predicate ⟨1, 2⟩ (Scope.ofNames ["id"]) =
      .error (.filterTooDeep 2 1) := by
    refine (hrefused _).mpr ⟨deepSample.nodes.take 3, _, deepSample.nodes.drop 4, rfl, ?_,
      [], [.error (.tooManyConditions 3 2)], rfl, List.forall_mem_nil _⟩
    simp [deepSample, nodes, toNode, FilterNode.nodes, FilterNode.nodesOf, FilterNode.Admissible,
      hcondition]
  refine ⟨herror, fun hall => ?_, (hdepth _ _ herror).1⟩
  obtain ⟨b, hb⟩ := haccepted.mpr hall
  rw [herror] at hb
  cases hb

end FilterGroup

end DashQuery
