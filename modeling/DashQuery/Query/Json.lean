import DashQuery.Filter.Json
import DashQuery.Json.Reader
import DashQuery.Query.Basic

/-! # Query descriptions in JSON

Every part of a query is a record.  Only the source table, and inside the parts
what names a column, a table or an expression, must be given; the lists default
to empty, a sort direction to `ASC`, and everything else to nothing.

* `Query.ofJson?_toJson`   what is written is read back -/

namespace DashQuery

namespace Aggregate

/-- The function in JSON. -/
def toJson (f : Aggregate) : Json := .str f.name

/-- The function written in JSON. -/
def ofJson? (j : Json) : Option Aggregate := (Json.variant? j).bind ofName?

/-- A function is read back by its name. -/
theorem ofJson?_toJson (f : Aggregate) : ofJson? f.toJson = some f := ofName?_name f

end Aggregate

namespace JoinKind

/-- The kind in JSON. -/
def toJson (k : JoinKind) : Json := .str k.name

/-- The kind written in JSON. -/
def ofJson? (j : Json) : Option JoinKind := (Json.variant? j).bind ofName?

/-- A kind of join is read back by its name. -/
theorem ofJson?_toJson (k : JoinKind) : ofJson? k.toJson = some k := ofName?_name k

end JoinKind

/-- A string is read back. -/
theorem Json.string?_str (s : String) : Json.string? (.str s) = some s := rfl

/-- A string that may be missing is read back. -/
theorem Json.optional_string (o : Option String) :
    Json.optional Json.string? (some (Json.ofOption Json.str o)) = some o :=
  Json.optional_ofOption Json.string?_str (fun _ h => by simp at h) o

/-- A number that may be missing is read back. -/
theorem Json.optional_word (o : Option UInt64) :
    Json.optional Json.word? (some (Json.ofOption (fun n => .int n.toNat) o)) = some o :=
  Json.optional_ofOption Json.word?_ofNat (fun _ h => by simp at h) o

namespace ColumnSelection

/-- The fields of a selection. -/
def outline : Json.Outline := .fields ["column", "alias", "aggregateFunction"]

/-- The selection in JSON. -/
def toJson (c : ColumnSelection) : Json :=
  .obj [("column", .str c.column), ("alias", Json.ofOption .str c.aliasName),
    ("aggregateFunction", Json.ofOption Aggregate.toJson c.aggregate)]

/-- The selection written in JSON. -/
def ofJson? (j : Json) : Option ColumnSelection :=
  match Json.fields? ["column", "alias", "aggregateFunction"] j with
  | some [column, aliasName, aggregate] => do
    let column ← Json.required Json.string? column
    let aliasName ← Json.optional Json.string? aliasName
    let aggregate ← Json.optional Aggregate.ofJson? aggregate
    return ⟨column, aliasName, aggregate⟩
  | _ => none

/-- A selected column is read back. -/
theorem ofJson?_toJson (c : ColumnSelection) : ofJson? c.toJson = some c := by
  have ha := Json.optional_ofOption Aggregate.ofJson?_toJson
    (fun _ h => by simp [Aggregate.toJson] at h) c.aggregate
  simp [toJson, ofJson?, Json.fields?, Json.required, Json.string?_str, Json.optional_string, ha,
    List.lookup_cons]

end ColumnSelection

namespace ExpressionColumn

/-- The fields of a computed column. -/
def outline : Json.Outline := .fields ["expression", "alias"]

/-- The computed column in JSON. -/
def toJson (c : ExpressionColumn) : Json :=
  .obj [("expression", .str c.expression), ("alias", .str c.aliasName)]

/-- The computed column written in JSON. -/
def ofJson? (j : Json) : Option ExpressionColumn :=
  match Json.fields? ["expression", "alias"] j with
  | some [expression, aliasName] => do
    let expression ← Json.required Json.string? expression
    let aliasName ← Json.required Json.string? aliasName
    return ⟨expression, aliasName⟩
  | _ => none

/-- A computed column is read back. -/
theorem ofJson?_toJson (c : ExpressionColumn) : ofJson? c.toJson = some c := by
  simp [toJson, ofJson?, Json.fields?, Json.required, Json.string?_str, List.lookup_cons]

end ExpressionColumn

namespace Join

/-- The fields of a join. -/
def outline : Json.Outline :=
  .record [("type", .whole), ("table", .whole), ("alias", .whole),
    ("on", .fields ["left", "right"])]

/-- The join in JSON. -/
def toJson (join : Join) : Json :=
  .obj [("type", join.kind.toJson), ("table", .str join.table),
    ("alias", Json.ofOption .str join.aliasName),
    ("on", .obj [("left", .str join.left), ("right", .str join.right)])]

/-- The two references that must agree, written in JSON. -/
def onOfJson? (j : Json) : Option (String × String) :=
  match Json.fields? ["left", "right"] j with
  | some [left, right] => do
    let left ← Json.required Json.string? left
    let right ← Json.required Json.string? right
    return (left, right)
  | _ => none

/-- The join written in JSON. -/
def ofJson? (j : Json) : Option Join :=
  match Json.fields? ["type", "table", "alias", "on"] j with
  | some [kind, table, aliasName, references] => do
    let kind ← Json.required JoinKind.ofJson? kind
    let table ← Json.required Json.string? table
    let aliasName ← Json.optional Json.string? aliasName
    let (left, right) ← Json.required onOfJson? references
    return ⟨kind, table, aliasName, left, right⟩
  | _ => none

/-- A join is read back. -/
theorem ofJson?_toJson (join : Join) : ofJson? join.toJson = some join := by
  simp [toJson, ofJson?, onOfJson?, Json.fields?, Json.required, Json.string?_str,
    Json.optional_string, JoinKind.ofJson?_toJson, List.lookup_cons]

end Join

namespace SortKey

/-- The fields of a sort key. -/
def outline : Json.Outline := .fields ["column", "direction"]

/-- The sort key in JSON. -/
def toJson (k : SortKey) : Json :=
  .obj [("column", .str k.column), ("direction", .str k.direction)]

/-- The sort key written in JSON; without a direction it ascends. -/
def ofJson? (j : Json) : Option SortKey :=
  match Json.fields? ["column", "direction"] j with
  | some [column, direction] => do
    let column ← Json.required Json.string? column
    let direction ← Json.withDefault "ASC" Json.string? direction
    return ⟨column, direction⟩
  | _ => none

/-- A sort key is read back. -/
theorem ofJson?_toJson (k : SortKey) : ofJson? k.toJson = some k := by
  simp [toJson, ofJson?, Json.fields?, Json.required, Json.withDefault, Json.string?_str,
    List.lookup_cons]

end SortKey

namespace Query

/-- The fields of a query. -/
def outline : Json.Outline :=
  .record [("sourceTable", .whole), ("columns", .list ColumnSelection.outline),
    ("expressionColumns", .list ExpressionColumn.outline), ("joins", .list Join.outline),
    ("filters", .whole), ("groupBy", .whole), ("orderBy", .list SortKey.outline),
    ("limit", .whole), ("offset", .whole)]

/-- The query in JSON. -/
def toJson (q : Query) : Json :=
  .obj [("sourceTable", .str q.sourceTable),
    ("columns", .arr (q.columns.map ColumnSelection.toJson)),
    ("expressionColumns", .arr (q.expressionColumns.map ExpressionColumn.toJson)),
    ("joins", .arr (q.joins.map Join.toJson)),
    ("filters", Json.ofOption Filters.toJson q.filters),
    ("groupBy", .arr (q.groupBy.map Json.str)),
    ("orderBy", .arr (q.orderBy.map SortKey.toJson)),
    ("limit", Json.ofOption (fun n => .int n.toNat) q.limit),
    ("offset", Json.ofOption (fun n => .int n.toNat) q.offset)]

/-- The query written in JSON. -/
def ofJson? (j : Json) : Option Query :=
  match Json.fields? ["sourceTable", "columns", "expressionColumns", "joins", "filters", "groupBy",
      "orderBy", "limit", "offset"] j with
  | some [source, columns, expressions, joins, filters, groupBy, orderBy, limit, offset] => do
    let source ← Json.required Json.string? source
    let columns ← Json.withDefault [] (Json.list? ColumnSelection.ofJson?) columns
    let expressions ← Json.withDefault [] (Json.list? ExpressionColumn.ofJson?) expressions
    let joins ← Json.withDefault [] (Json.list? Join.ofJson?) joins
    let filters ← Json.optional Filters.ofJson? filters
    let groupBy ← Json.withDefault [] (Json.list? Json.string?) groupBy
    let orderBy ← Json.withDefault [] (Json.list? SortKey.ofJson?) orderBy
    let limit ← Json.optional Json.word? limit
    let offset ← Json.optional Json.word? offset
    return ⟨source, columns, expressions, joins, filters, groupBy, orderBy, limit, offset⟩
  | _ => none

/-- The query of a JSON document. -/
def ofText? (text : String) : Option Query := (Json.readDocument? outline text).bind ofJson?

/-- A query is read back, member by member. -/
theorem ofJson?_toJson (q : Query) : ofJson? q.toJson = some q := by
  have hf := Json.optional_ofOption Filters.ofJson?_toJson
    (fun f h => by
      cases f <;> simp [Filters.toJson, FilterGroup.toJson, FilterGroup.toNode,
        FilterNode.toJson] at h) q.filters
  simp [toJson, ofJson?, Json.fields?, Json.required, Json.withDefault, Json.string?_str,
    Json.list?_map ColumnSelection.ofJson?_toJson, Json.list?_map ExpressionColumn.ofJson?_toJson,
    Json.list?_map Join.ofJson?_toJson, Json.list?_map SortKey.ofJson?_toJson,
    Json.list?_map Json.string?_str, Json.optional_word, hf, List.lookup_cons]

end Query

end DashQuery
