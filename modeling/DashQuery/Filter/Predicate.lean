import DashQuery.BoundText
import DashQuery.Filter.Basic
import DashQuery.Filter.Operator
import DashQuery.Reference
import DashQuery.Settings

/-! # The predicate of a filter

A filter group becomes a predicate whose values are placeholders.  Siblings stand
between the group's keyword; a nested group stands in parentheses, so that mixing
conjunction and disjunction never depends on precedence; a group that says
nothing leaves no trace.

A group is checked before its entries (its depth, then its size), the entries in
order, and in a condition first the column, then the operator, then the value.
The first violation is the error. -/

namespace DashQuery

namespace Condition

/-- A value that a placeholder can stand for. -/
def scalar (c : Condition) (op : Operator) (value : Json) : Except QueryError Param :=
  match Param.ofJson? value with
  | some p => .ok p
  | none => .error (.wrongValueType c.column op.text value.describe)

/-- Values that placeholders can stand for. -/
def scalars (c : Condition) (op : Operator) : List Json → Except QueryError (List Param)
  | [] => .ok []
  | value :: values => do
    let p ← c.scalar op value
    let ps ← c.scalars op values
    return p :: ps

/-- What follows the column in the predicate, with the values in the shape the operator asks
for. -/
def tail (c : Condition) (op : Operator) : Except QueryError BoundText :=
  match op with
  | .isNull | .isNotNull => .ok .empty
  | .isIn | .notIn =>
    match c.value with
    | .arr [] => .error (.emptyInList c.column op.text)
    | .arr (value :: values) => do
      let params ← c.scalars op (value :: values)
      return (BoundText.paramList params).parenthesized
    | other => .error (.wrongValueType c.column op.text other.describe)
  | .between =>
    match c.value with
    | .arr [low, high] => do
      let low ← c.scalar op low
      let high ← c.scalar op high
      return ((BoundText.param low).andThen (.raw "AND")).andThen (.param high)
    | .arr values => .error (.wrongArity c.column values.length)
    | .null => .error (.wrongArity c.column 0)
    | _ => .error (.wrongArity c.column 1)
  | .like | .notLike =>
    match c.value with
    | .str pattern => .ok (.param (.text pattern))
    | other => .error (.wrongValueType c.column op.text other.describe)
  | .eq | .notEq | .gt | .lt | .gte | .lte => do
    let value ← c.scalar op c.value
    return .param value

/-- The predicate of one condition. -/
def predicate (scope : Scope) (c : Condition) : Except QueryError BoundText := do
  Name.check c.column
  scope.check c.column
  Name.check (scope.resolve c.column)
  let op ← Operator.parse c.operator
  let tail ← c.tail op
  return (BoundText.raw (Name.quoteReference (scope.resolve c.column) ++ " " ++ op.text)).andThen
    tail

end Condition

/-- How deep groups may be nested and how many entries one may have. -/
structure FilterBounds where
  maxDepth : Nat
  maxConditions : Nat

/-- The bounds that the settings put on filters. -/
def Settings.filterBounds (s : Settings) : FilterBounds :=
  ⟨s.maxFilterDepth.toNat, s.maxGroupConditions.toNat⟩

/-- Whether a group at nesting depth `depth` keeps the bounds. -/
def FilterBounds.check (bounds : FilterBounds) (depth : Nat) (entries : List FilterNode) :
    Except QueryError Unit :=
  if depth > bounds.maxDepth then .error (.filterTooDeep depth bounds.maxDepth)
  else if entries.length > bounds.maxConditions then
    .error (.tooManyConditions entries.length bounds.maxConditions)
  else .ok ()

/-- The text between the entries of a group. -/
def Combinator.separator (c : Combinator) : String := " " ++ c.keyword ++ " "

namespace FilterNode

mutual

/-- The predicate of an entry of a group at nesting depth `depth`. -/
def predicate (bounds : FilterBounds) (scope : Scope) (depth : Nat) :
    FilterNode → Except QueryError BoundText
  | .condition c => c.predicate scope
  | .group combinator entries => do
    bounds.check (depth + 1) entries
    let parts ← predicates bounds scope (depth + 1) entries
    return (BoundText.join combinator.separator parts).parenthesized

/-- The predicates of the entries of a group at nesting depth `depth`. -/
def predicates (bounds : FilterBounds) (scope : Scope) (depth : Nat) :
    List FilterNode → Except QueryError (List BoundText)
  | [] => .ok []
  | n :: ns => do
    let part ← predicate bounds scope depth n
    let parts ← predicates bounds scope depth ns
    return part :: parts

end

end FilterNode

/-- The predicate of a whole filter, empty if the filter says nothing. -/
def FilterGroup.predicate (bounds : FilterBounds) (scope : Scope) (g : FilterGroup) :
    Except QueryError BoundText := do
  bounds.check 0 g.entries
  let parts ← FilterNode.predicates bounds scope 0 g.entries
  return BoundText.join g.combinator.separator parts

end DashQuery
