import DashQuery.Filter.Predicate
import DashQuery.Proofs.Failure

/-!
# The checks of a filter

The predicate of a filter exists if the filter passes a list of checks, and else the
first check that fails says why not.  The checks stand in the order in which a filter
is written: those of a group before those of its entries, and of each condition its
column, its operator and its value.

## Key results

- `Condition.failure?_predicate`: a condition fails as its checks do
- `FilterGroup.failure?_predicate`: a filter fails as its checks do
- `Condition.checks_concern`: a check of a condition names the column or operator it refuses
- `FilterGroup.checks_refuse`: a check of a filter never says that a run failed
-/

namespace DashQuery

namespace Condition

/-- A placeholder has to be able to stand for the value. -/
def scalarCheck (c : Condition) (op : Operator) (value : Json) : Check :=
  Check.require ((Param.ofJson? value).isSome = true)
    (.wrongValueType c.column op.text value.describe)

/-- The value has to have the shape the operator asks for: nothing for the null tests, a list of
scalars that is not empty for the membership tests, two scalars for a range, a text for a pattern,
and one scalar for a comparison. -/
def valueChecks (c : Condition) (op : Operator) : List Check :=
  match op with
  | .isNull | .isNotNull => []
  | .isIn | .notIn =>
    match c.value with
    | .arr values =>
      Check.require (values.isEmpty = false) (.emptyInList c.column op.text) ::
        values.map (c.scalarCheck op)
    | other => [.error (.wrongValueType c.column op.text other.describe)]
  | .between =>
    match c.value with
    | .arr values =>
      Check.require (values.length = 2) (.wrongArity c.column values.length) ::
        values.map (c.scalarCheck op)
    | .null => [.error (.wrongArity c.column 0)]
    | _ => [.error (.wrongArity c.column 1)]
  | .like | .notLike =>
    [Check.require ((Json.string? c.value).isSome = true)
      (.wrongValueType c.column op.text c.value.describe)]
  | .eq | .notEq | .gt | .lt | .gte | .lte => [c.scalarCheck op c.value]

/-- The operator has to be one of the closed set, and the value one for this operator. -/
def operatorChecks (c : Condition) : List Check :=
  match Operator.all.find? fun op => op.text == c.operator with
  | some op => c.valueChecks op
  | none => [.error (.invalidOperator c.operator)]

/-- The checks of a condition.  The form in which its column is written is checked as well. -/
def checks (scope : Scope) (c : Condition) : List Check :=
  [Name.check c.column, scope.check c.column, Name.check (scope.resolve c.column)] ++
    c.operatorChecks

end Condition

/-- The checks of a group at nesting depth `depth`: how deep it stands, then how many entries it
has. -/
def FilterBounds.checks (bounds : FilterBounds) (depth : Nat) (entries : List FilterNode) :
    List Check :=
  [Check.require (depth ≤ bounds.maxDepth) (.filterTooDeep depth bounds.maxDepth),
    Check.require (entries.length ≤ bounds.maxConditions)
      (.tooManyConditions entries.length bounds.maxConditions)]

namespace FilterNode

mutual

/-- The checks of an entry of a group at nesting depth `depth`. -/
def checks (bounds : FilterBounds) (scope : Scope) (depth : Nat) : FilterNode → List Check
  | .condition c => c.checks scope
  | .group _ entries =>
    bounds.checks (depth + 1) entries ++ checksOf bounds scope (depth + 1) entries

/-- The checks of the entries of a group at nesting depth `depth`. -/
def checksOf (bounds : FilterBounds) (scope : Scope) (depth : Nat) :
    List FilterNode → List Check
  | [] => []
  | n :: ns => checks bounds scope depth n ++ checksOf bounds scope depth ns

end

end FilterNode

/-- The checks of a whole filter. -/
def FilterGroup.checks (bounds : FilterBounds) (scope : Scope) (g : FilterGroup) : List Check :=
  bounds.checks 0 g.entries ++ FilterNode.checksOf bounds scope 0 g.entries

/-! ## The predicate fails as the checks do -/

namespace Condition

variable (scope : Scope) (c : Condition) (op : Operator)

/-- A value fails as its check does. -/
theorem failure?_scalar (value : Json) :
    failure? (c.scalar op value) = failure? (c.scalarCheck op value) := by
  unfold scalar scalarCheck
  cases Param.ofJson? value <;> rfl

/-- Values fail as their checks do, one after the other. -/
theorem failure?_scalars (values : List Json) :
    failure? (c.scalars op values) = firstViolation (values.map (c.scalarCheck op)) := by
  induction values with
  | nil => rfl
  | cons value values ih =>
    rw [scalars, List.map_cons, firstViolation_cons]
    refine failure?_bind (c.failure?_scalar op value) fun p _ => ?_
    rw [bind_pure_comp, failure?_map, ih]

/-- The value of a condition fails as its checks do. -/
theorem failure?_tail : failure? (c.tail op) = firstViolation (c.valueChecks op) := by
  cases op with
  | isNull | isNotNull => rfl
  -- a list that is not empty, of scalars
  | isIn | notIn =>
    unfold tail valueChecks
    cases c.value with
    | arr values =>
      cases values with
      | nil => rfl
      | cons value values =>
        simp only [bind_pure_comp, failure?_map, failure?_scalars]
        rfl
    | _ => rfl
  | between =>
    unfold tail valueChecks
    cases c.value with
    | arr values =>
      -- any other number of values is refused before a single one is looked at
      match values with
      | [] | [_] | _ :: _ :: _ :: _ => simp
      | [low, high] =>
        simp only [List.length_cons, List.length_nil, List.map_cons, List.map_nil,
          firstViolation_cons, firstViolation_nil, failure?_require, if_true, Option.none_or,
          Option.or_none]
        refine failure?_bind (c.failure?_scalar _ low) fun p _ => ?_
        rw [bind_pure_comp, failure?_map, failure?_scalar]
    | _ => rfl
  -- a string
  | like | notLike =>
    unfold tail valueChecks
    cases c.value <;> rfl
  -- a scalar
  | eq | notEq | gt | lt | gte | lte =>
    simp [tail, valueChecks, failure?_scalar]

/-- A condition fails as its checks do. -/
theorem failure?_predicate :
    failure? (c.predicate scope) = firstViolation (c.checks scope) := by
  -- the operator decides which checks follow, so both are taken together
  have hoperator : failure? (do
      let op ← Operator.parse c.operator
      let tail ← c.tail op
      return (BoundText.raw (Name.quoteReference (scope.resolve c.column) ++ " " ++
        op.text)).andThen tail) = firstViolation c.operatorChecks := by
    unfold Operator.parse operatorChecks
    cases Operator.all.find? fun op => op.text == c.operator with
    | none => rfl
    | some op =>
      rw [← failure?_tail c op]
      exact failure?_map _ _
  unfold predicate checks
  simp only [failure?_check_bind, hoperator, List.cons_append, List.nil_append,
    firstViolation_cons]

end Condition

/-- The bounds of a group fail as their checks do. -/
theorem FilterBounds.failure?_check (bounds : FilterBounds) (depth : Nat)
    (entries : List FilterNode) :
    failure? (bounds.check depth entries) = firstViolation (bounds.checks depth entries) := by
  unfold check checks
  simp only [firstViolation_cons, failure?_require, firstViolation_nil, Option.or_none]
  by_cases hdepth : depth > bounds.maxDepth
  · simp [hdepth, Nat.not_le.mpr hdepth]
  · by_cases hsize : entries.length > bounds.maxConditions
    · simp [hdepth, Nat.not_lt.mp hdepth, hsize, Nat.not_le.mpr hsize]
    · simp [hdepth, Nat.not_lt.mp hdepth, hsize, Nat.not_lt.mp hsize]

namespace FilterNode

variable {bounds : FilterBounds} {scope : Scope}

mutual

/-- A node fails as its checks do. -/
theorem failure?_predicate {depth : Nat} : (n : FilterNode) →
    failure? (predicate bounds scope depth n) = firstViolation (checks bounds scope depth n)
  | .condition c => c.failure?_predicate scope
  | .group combinator entries => by
    simp only [predicate, checks, failure?_check_bind, bind_pure_comp, failure?_map,
      firstViolation_append, FilterBounds.failure?_check, failure?_predicates entries]

/-- Several nodes fail as their checks do, one node after the other. -/
theorem failure?_predicates {depth : Nat} : (ns : List FilterNode) →
    failure? (predicates bounds scope depth ns) = firstViolation (checksOf bounds scope depth ns)
  | [] => rfl
  | n :: ns => by
    rw [predicates, checksOf, firstViolation_append]
    refine failure?_bind (failure?_predicate n) fun part _ => ?_
    rw [bind_pure_comp, failure?_map, failure?_predicates ns]

end

end FilterNode

/-- A filter fails as its checks do. -/
theorem FilterGroup.failure?_predicate (bounds : FilterBounds) (scope : Scope) (g : FilterGroup) :
    failure? (g.predicate bounds scope) = firstViolation (g.checks bounds scope) := by
  simp only [predicate, checks, failure?_check_bind, bind_pure_comp, failure?_map,
    firstViolation_append, FilterBounds.failure?_check, FilterNode.failure?_predicates]

/-! ## What the checks say -/

/-- The check of a name finds fault with the query only. -/
theorem Name.check_refuses (name : String) : Check.Refuses (Name.check name) := by
  unfold Name.check
  split <;> simp [QueryError.isValidation, QueryError.status]

/-- So does the check whether a column is legal. -/
theorem Scope.check_refuses (scope : Scope) (column : String) :
    Check.Refuses (scope.check column) := by
  unfold Scope.check
  split <;> simp [QueryError.isValidation, QueryError.status]

namespace Condition

/-- The errors that are said of a condition.  Each names the column or the operator it is about. -/
def Concerns (scope : Scope) (c : Condition) : QueryError → Prop
  | .invalidIdentifier name => name = c.column ∨ name = scope.resolve c.column
  | .unknownColumn column => column = c.column
  | .invalidOperator operator => operator = c.operator
  | .emptyInList column operator => column = c.column ∧ operator = c.operator
  | .wrongValueType column operator _ => column = c.column ∧ operator = c.operator
  | .wrongArity column _ => column = c.column
  | _ => False

/-- What is wrong with the value of a condition names its column and its operator. -/
theorem valueChecks_concern {scope : Scope} {c : Condition} {op : Operator}
    (hop : op.text = c.operator) : ∀ check ∈ c.valueChecks op, check.Says (c.Concerns scope) := by
  -- a value that cannot be bound
  have hscalar : ∀ value, (c.scalarCheck op value).Says (c.Concerns scope) := fun _ =>
    Check.says_require ⟨rfl, hop⟩
  have hscalars : ∀ values : List Json, ∀ check ∈ values.map (c.scalarCheck op),
      check.Says (c.Concerns scope) :=
    fun values => List.forall_mem_map.mpr fun value _ => hscalar value
  -- each operator asks for a value of its own form
  cases op with
  | isNull | isNotNull => exact List.forall_mem_nil _
  | isIn | notIn =>
    unfold valueChecks
    cases c.value with
    | arr values =>
      exact List.forall_mem_cons.mpr ⟨Check.says_require ⟨rfl, hop⟩, hscalars values⟩
    | _ => exact List.forall_mem_singleton.mpr (Check.says_error_iff.mpr ⟨rfl, hop⟩)
  | between =>
    unfold valueChecks
    cases c.value with
    | arr values => exact List.forall_mem_cons.mpr ⟨Check.says_require rfl, hscalars values⟩
    | _ => exact List.forall_mem_singleton.mpr (Check.says_error_iff.mpr rfl)
  | like | notLike => exact List.forall_mem_singleton.mpr (Check.says_require ⟨rfl, hop⟩)
  | eq | notEq | gt | lt | gte | lte => exact List.forall_mem_singleton.mpr (hscalar c.value)

/-- Every check of a condition names the column or the operator that it refuses. -/
theorem checks_concern (scope : Scope) (c : Condition) :
    ∀ check ∈ c.checks scope, check.Says (c.Concerns scope) := by
  -- the column as it is given or as it is written
  have hname : ∀ name, name = c.column ∨ name = scope.resolve c.column →
      Check.Says (c.Concerns scope) (Name.check name) := by
    intro name hname
    unfold Name.check
    split
    · exact Check.says_ok
    · exact Check.says_error_iff.mpr hname
  -- the column as it is given
  have hlegal : Check.Says (c.Concerns scope) (scope.check c.column) := by
    unfold Scope.check
    split
    · exact Check.says_ok
    · exact Check.says_error_iff.mpr rfl
  -- the operator, or the value for it
  have hoperator : ∀ check ∈ c.operatorChecks, check.Says (c.Concerns scope) := by
    unfold operatorChecks
    split
    · next op hop => exact valueChecks_concern (by simpa using List.find?_some hop)
    · exact List.forall_mem_singleton.mpr (Check.says_error_iff.mpr rfl)
  simp only [checks, List.cons_append, List.nil_append, List.forall_mem_cons]
  exact ⟨hname _ (.inl rfl), hlegal, hname _ (.inr rfl), hoperator⟩

/-- Whatever is said of a condition is the caller's fault. -/
theorem Concerns.isValidation {scope : Scope} {c : Condition} {e : QueryError}
    (h : c.Concerns scope e) : e.isValidation = true := by
  cases e with
  | executionFailed cause => cases h
  | _ => rfl

/-- The checks of a condition find fault with the query only. -/
theorem checks_refuse (scope : Scope) (c : Condition) :
    ∀ check ∈ c.checks scope, check.Refuses := fun check hmem e he =>
  (c.checks_concern scope check hmem e he).isValidation

end Condition

/-- So do those of a group's bounds. -/
theorem FilterBounds.checks_refuse (bounds : FilterBounds) (depth : Nat)
    (entries : List FilterNode) : ∀ check ∈ bounds.checks depth entries, check.Refuses := by
  simp only [checks, List.forall_mem_cons]
  exact ⟨Check.refuses_require rfl, Check.refuses_require rfl, List.forall_mem_nil _⟩

namespace FilterNode

variable {bounds : FilterBounds} {scope : Scope}

mutual

/-- So do those of a node. -/
theorem checks_refuse {depth : Nat} : (n : FilterNode) →
    ∀ check ∈ checks bounds scope depth n, check.Refuses
  | .condition c => c.checks_refuse scope
  | .group _ entries => by
    rw [checks]
    exact List.forall_mem_append.mpr ⟨bounds.checks_refuse _ entries, checksOf_refuse entries⟩

/-- So do those of several nodes. -/
theorem checksOf_refuse {depth : Nat} : (ns : List FilterNode) →
    ∀ check ∈ checksOf bounds scope depth ns, check.Refuses
  | [] => List.forall_mem_nil _
  | n :: ns => by
    rw [checksOf]
    exact List.forall_mem_append.mpr ⟨checks_refuse n, checksOf_refuse ns⟩

end

end FilterNode

/-- A check of a filter never says that a run failed. -/
theorem FilterGroup.checks_refuse (bounds : FilterBounds) (scope : Scope) (g : FilterGroup) :
    ∀ check ∈ g.checks bounds scope, check.Refuses :=
  List.forall_mem_append.mpr
    ⟨bounds.checks_refuse 0 g.entries, FilterNode.checksOf_refuse g.entries⟩

end DashQuery
