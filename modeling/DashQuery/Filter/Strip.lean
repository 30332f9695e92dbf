import DashQuery.Filter.Basic

/-! # A filter without one column

`FilterGroup.strip` takes every condition on one column out of a filter, at any
depth, and every nested group that is left empty.  A column of the source table
may be named with or without the table's name in front; both are one column. -/

namespace DashQuery

/-- `column` without one leading `source.`, if it has that. -/
def withoutSource (source column : String) : String :=
  if source.toList.isPrefixOf column.toList then
    match column.toList.drop source.toList.length with
    | '.' :: rest => String.ofList rest
    | _ => column
  else column

/-- Whether two names are one column of the source table or one joined column. -/
def sameColumn (source a b : String) : Bool := withoutSource source a == withoutSource source b

namespace FilterNode

mutual

/-- The node without conditions on `column`, if something is left of it. -/
def strip? (source column : String) : FilterNode → Option FilterNode
  | .condition c => if sameColumn source c.column column then none else some (.condition c)
  | .group combinator entries =>
    match stripAll source column entries with
    | [] => none
    | n :: ns => some (.group combinator (n :: ns))

/-- What is left of several nodes without conditions on `column`. -/
def stripAll (source column : String) : List FilterNode → List FilterNode
  | [] => []
  | n :: ns =>
    match strip? source column n with
    | some m => m :: stripAll source column ns
    | none => stripAll source column ns

end

/-- Nodes are stripped one by one, and left out where nothing is left. -/
theorem stripAll_eq_filterMap (source column : String) (ns : List FilterNode) :
    stripAll source column ns = ns.filterMap (strip? source column) := by
  induction ns with
  | nil => rfl
  | cons n ns ih =>
    simp only [stripAll, List.filterMap_cons, ih]
    split <;> simp_all

end FilterNode

/-- The group without conditions on `column`. -/
def FilterGroup.strip (source column : String) (g : FilterGroup) : FilterGroup :=
  ⟨g.combinator, FilterNode.stripAll source column g.entries⟩

end DashQuery
