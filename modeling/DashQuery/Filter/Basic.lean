import DashQuery.Json.Record

/-! # Filters

A filter is a condition on one column or a group of filters under a combinator.
At the top a query gives either one group or a bare list, which is a conjunction.
Operators stay text at this level; the predicate compiler refuses what it does
not know. -/

namespace DashQuery

/-- How the entries of a group are combined. -/
inductive Combinator where
  | and
  | or
deriving DecidableEq

/-- The combinator's keyword. -/
def Combinator.keyword : Combinator → String
  | and => "AND"
  | or => "OR"

/-- A condition on one column. -/
structure Condition where
  column : String
  operator : String
  value : Json

/-- A condition or a nested group. -/
inductive FilterNode where
  | condition (c : Condition)
  | group (combinator : Combinator) (entries : List FilterNode)

/-- A group at the top. -/
structure FilterGroup where
  combinator : Combinator
  entries : List FilterNode

namespace FilterGroup

/-- The group as an entry of another one. -/
def toNode (g : FilterGroup) : FilterNode := .group g.combinator g.entries

/-- Whether the group has no entry at all. -/
def isEmpty (g : FilterGroup) : Bool := g.entries.isEmpty

end FilterGroup

/-- The filters of a query, as they were given. -/
inductive Filters where
  | group (g : FilterGroup)
  | list (entries : List FilterNode)

/-- The filters as one group; a bare list is a conjunction. -/
def Filters.toGroup : Filters → FilterGroup
  | .group g => g
  | .list entries => ⟨.and, entries⟩

namespace FilterNode

mutual

/-- The conditions of a node, left to right. -/
def leaves : FilterNode → List Condition
  | .condition c => [c]
  | .group _ entries => leavesOf entries

/-- The conditions of several nodes, left to right. -/
def leavesOf : List FilterNode → List Condition
  | [] => []
  | n :: ns => leaves n ++ leavesOf ns

end

/-- The conditions of a list of nodes are those of its nodes in order. -/
theorem leavesOf_eq_flatMap (ns : List FilterNode) : leavesOf ns = ns.flatMap leaves := by
  induction ns with
  | nil => rfl
  | cons n ns ih => simp [leavesOf, ih]

mutual

/-- A node and all nodes in it, each with the depth at which it stands; a group comes before its
entries. -/
def nodes (depth : Nat) : FilterNode → List (Nat × FilterNode)
  | .condition c => [(depth, .condition c)]
  | .group combinator entries =>
    (depth, .group combinator entries) :: nodesOf (depth + 1) entries

/-- Several nodes at one depth and all nodes in them, left to right. -/
def nodesOf (depth : Nat) : List FilterNode → List (Nat × FilterNode)
  | [] => []
  | n :: ns => nodes depth n ++ nodesOf depth ns

end

end FilterNode

namespace FilterGroup

/-- The conditions of a group, left to right. -/
def leaves (g : FilterGroup) : List Condition := FilterNode.leavesOf g.entries

/-- A group at the top and all nodes in it, each with its nesting depth. -/
def nodes (g : FilterGroup) : List (Nat × FilterNode) := g.toNode.nodes 0

end FilterGroup

end DashQuery
