import DashQuery.Filter.Basic

/-! # Filters in JSON

A group is a record of a combinator and its entries, a condition a record of a
column, an operator and a value that is `null` when missing.  What can be read as
a group is a group; else an entry is a condition, and the filters of a query are
a list of entries.  A combinator is written in capitals and read also in small
letters.

* `FilterNode.ofJson?_toJson`, `Filters.ofJson?_toJson`   what is written is read back -/

namespace DashQuery

namespace Combinator

/-- The combinator in JSON. -/
def toJson (c : Combinator) : Json := .str c.keyword

/-- The combinator of a name, in capitals or in small letters. -/
def ofName? : String → Option Combinator
  | "AND" => some and
  | "and" => some and
  | "OR" => some or
  | "or" => some or
  | _ => none

/-- The combinator written in JSON. -/
def ofJson? (j : Json) : Option Combinator := (Json.variant? j).bind ofName?

/-- A combinator is read back. -/
theorem ofJson?_toJson (c : Combinator) : ofJson? c.toJson = some c := by
  cases c <;> rfl

end Combinator

namespace Condition

/-- The condition in JSON. -/
def toJson (c : Condition) : Json :=
  .obj [("column", .str c.column), ("operator", .str c.operator), ("value", c.value)]

/-- The condition written in JSON. -/
def ofJson? (j : Json) : Option Condition :=
  match Json.fields? ["column", "operator", "value"] j with
  | some [column, operator, value] => do
    let column ← Json.required Json.string? column
    let operator ← Json.required Json.string? operator
    return ⟨column, operator, value.getD .null⟩
  | _ => none

/-- A condition is read back. -/
theorem ofJson?_toJson (c : Condition) : ofJson? c.toJson = some c := by
  simp [toJson, ofJson?, Json.fields?, Json.required, Json.string?, List.lookup_cons]

end Condition

namespace FilterNode

mutual

/-- The node in JSON. -/
def toJson : FilterNode → Json
  | .condition c => c.toJson
  | .group combinator entries =>
    .obj [("combinator", combinator.toJson), ("conditions", .arr (toJsons entries))]

/-- Several nodes in JSON. -/
def toJsons : List FilterNode → List Json
  | [] => []
  | n :: ns => toJson n :: toJsons ns

end

end FilterNode

namespace FilterGroup

/-- The group in JSON. -/
def toJson (g : FilterGroup) : Json := g.toNode.toJson

/-- A group of the members of an object; `lists` holds, by key, what can be read as a list of
nodes. -/
def ofMembers? (members : List (String × Json))
    (lists : List (String × Option (List FilterNode))) : Option FilterGroup :=
  match Json.fields? ["combinator", "conditions"] (.obj members) with
  | some [combinator, _] => do
    let combinator ← Json.required Combinator.ofJson? combinator
    let entries ← lists.lookup "conditions"
    return ⟨combinator, ← entries⟩
  | _ => none

/-- A group of the items of an array; `lists` holds what can be read as a list of nodes. -/
def ofItems? (items : List Json) (lists : List (Option (List FilterNode))) :
    Option FilterGroup :=
  match items, lists with
  | [combinator, _], [_, entries] => do
    let combinator ← Combinator.ofJson? combinator
    return ⟨combinator, ← entries⟩
  | _, _ => none

end FilterGroup

namespace FilterNode

mutual

/-- The node written in JSON: a group if it can be read as one, else a condition. -/
def ofJson? : Json → Option FilterNode
  | .obj members =>
    match FilterGroup.ofMembers? members (memberLists members) with
    | some g => some g.toNode
    | none => (Condition.ofJson? (.obj members)).map .condition
  | .arr items =>
    match FilterGroup.ofItems? items (itemLists items) with
    | some g => some g.toNode
    | none => (Condition.ofJson? (.arr items)).map .condition
  | _ => none

/-- The list of nodes written in JSON. -/
def listOfJson? : Json → Option (List FilterNode)
  | .arr items => ofJsons? items
  | _ => none

/-- Several nodes written in JSON. -/
def ofJsons? : List Json → Option (List FilterNode)
  | [] => some []
  | j :: js =>
    match ofJson? j, ofJsons? js with
    | some n, some ns => some (n :: ns)
    | _, _ => none

/-- The lists of nodes written as items of an array. -/
def itemLists : List Json → List (Option (List FilterNode))
  | [] => []
  | j :: js => listOfJson? j :: itemLists js

/-- The lists of nodes written as members of an object. -/
def memberLists : List (String × Json) → List (String × Option (List FilterNode))
  | [] => []
  | (key, j) :: ms => (key, listOfJson? j) :: memberLists ms

end

end FilterNode

/-- The group written in JSON. -/
def FilterGroup.ofJson? : Json → Option FilterGroup
  | .obj members => ofMembers? members (FilterNode.memberLists members)
  | .arr items => ofItems? items (FilterNode.itemLists items)
  | _ => none

namespace Filters

/-- The filters in JSON, in the shape in which they were given. -/
def toJson : Filters → Json
  | .group g => g.toJson
  | .list entries => .arr (FilterNode.toJsons entries)

/-- The filters written in JSON: a group if they can be read as one, else a list. -/
def ofJson? (j : Json) : Option Filters :=
  match FilterGroup.ofJson? j with
  | some g => some (.group g)
  | none => (FilterNode.listOfJson? j).map .list

end Filters

/-! ## What is written is read back -/

namespace FilterNode

/-- A node is never written in the form of an enumeration. -/
theorem variant?_toJson (n : FilterNode) : Json.variant? n.toJson = none := by
  cases n <;> rfl

mutual

/-- A node is read back: what is written for a condition is not read as a group. -/
theorem ofJson?_toJson : (n : FilterNode) → ofJson? n.toJson = some n
  | .condition c => by
    have h := Condition.ofJson?_toJson c
    simp only [Condition.toJson] at h
    simp [toJson, Condition.toJson, ofJson?, FilterGroup.ofMembers?, Json.fields?,
      Json.required, List.lookup_cons, h]
  | .group combinator entries => by
    simp [toJson, ofJson?, FilterGroup.ofMembers?, Json.fields?, Json.required, List.lookup_cons,
      memberLists, listOfJson?, Combinator.ofJson?_toJson, ofJsons?_toJsons entries,
      FilterGroup.toNode]

/-- The same for a list of nodes. -/
theorem ofJsons?_toJsons : (ns : List FilterNode) → ofJsons? (toJsons ns) = some ns
  | [] => rfl
  | n :: ns => by simp [toJsons, ofJsons?, ofJson?_toJson n, ofJsons?_toJsons ns]

end

end FilterNode

/-- A group is read back. -/
theorem FilterGroup.ofJson?_toJson (g : FilterGroup) : ofJson? g.toJson = some g := by
  simp [toJson, toNode, FilterNode.toJson, ofJson?, ofMembers?, Json.fields?, Json.required,
    List.lookup_cons, FilterNode.memberLists, FilterNode.listOfJson?, Combinator.ofJson?_toJson,
    FilterNode.ofJsons?_toJsons]

/-- A list of nodes is never read as a group. -/
theorem FilterGroup.ofJson?_toJsons (ns : List FilterNode) :
    ofJson? (.arr (FilterNode.toJsons ns)) = none := by
  unfold ofJson? ofItems?
  cases ns with
  | nil => rfl
  | cons n ns =>
    simp only [FilterNode.toJsons]
    split
    · next heq _ =>
      obtain ⟨rfl, _⟩ := List.cons.inj heq
      simp [Combinator.ofJson?, FilterNode.variant?_toJson]
    · rfl

/-- Filters are read back in the form in which they were given. -/
theorem Filters.ofJson?_toJson (f : Filters) : ofJson? f.toJson = some f := by
  cases f with
  | group g => simp [toJson, ofJson?, FilterGroup.ofJson?_toJson]
  | list ns =>
    simp [toJson, ofJson?, FilterGroup.ofJson?_toJsons, FilterNode.listOfJson?,
      FilterNode.ofJsons?_toJsons]

end DashQuery
