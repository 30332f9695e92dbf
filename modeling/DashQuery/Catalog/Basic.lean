import DashQuery.Catalog.Column

/-! # The registered tables

A catalog maps table names to their columns.  It is the allow-list against which
every query is checked; the compiler reads it and never changes it.  The tables
are kept in the order of their names, each name once. -/

namespace DashQuery

/-- The registered tables, in the order of their names. -/
structure Catalog where
  tables : List (String × List Column)
  sorted : Ordered.Sorted tables

namespace Catalog

/-- No table at all. -/
def empty : Catalog := ⟨[], Ordered.sorted_nil⟩

/-- Registers a table, in place of an earlier one of that name. -/
def insert (catalog : Catalog) (name : String) (columns : List Column) : Catalog :=
  ⟨Ordered.put name columns catalog.tables, Ordered.sorted_put name columns catalog.sorted⟩

/-- The columns of a table, in their order of declaration. -/
def table? (catalog : Catalog) (name : String) : Option (List Column) :=
  catalog.tables.lookup name

/-- The names of all tables, in order. -/
def names (catalog : Catalog) : List String := catalog.tables.map Prod.fst

/-- How many tables there are. -/
def size (catalog : Catalog) : Nat := catalog.tables.length

/-- The catalog of a list of tables; of several with one name the last stays. -/
def ofList (tables : List (String × List Column)) : Catalog :=
  ⟨Ordered.ofList tables, Ordered.sorted_ofList tables⟩

/-! ## Reading after writing -/

/-- A registered table is found. -/
theorem table?_insert_self (catalog : Catalog) (name : String) (columns : List Column) :
    (catalog.insert name columns).table? name = some columns :=
  Ordered.lookup_put_self name columns catalog.tables

/-- Registering a table leaves the others. -/
theorem table?_insert_of_ne (catalog : Catalog) {name other : String} (columns : List Column)
    (h : other ≠ name) : (catalog.insert name columns).table? other = catalog.table? other :=
  Ordered.lookup_put_of_ne h columns catalog.tables

/-- A catalog is what comes of registering its tables. -/
theorem ofList_tables (catalog : Catalog) : ofList catalog.tables = catalog := by
  cases catalog with
  | mk tables sorted => simp [ofList, Ordered.ofList_eq_self sorted]

/-! ## JSON -/

/-- The catalog in JSON: an object of lists of columns. -/
def toJson (catalog : Catalog) : Json :=
  .obj (catalog.tables.map fun t => (t.1, .arr (t.2.map Column.toJson)))

/-- One table of a catalog in JSON. -/
def tableOfJson? (member : String × Json) : Option (String × List Column) := do
  let columns ← Json.list? Column.ofJson? member.2
  return (member.1, columns)

/-- The catalog written in JSON. -/
def ofJson? : Json → Option Catalog
  | .obj members => (members.mapM tableOfJson?).map ofList
  | _ => none

/-- A catalog is read back. -/
theorem ofJson?_toJson (catalog : Catalog) : ofJson? catalog.toJson = some catalog := by
  have h : (catalog.tables.map fun t => (t.1, Json.arr (t.2.map Column.toJson))).mapM
      tableOfJson? = some catalog.tables := by
    generalize catalog.tables = tables
    induction tables with
    | nil => rfl
    | cons t ts ih =>
      simp [tableOfJson?, Json.list?_map Column.ofJson?_toJson, ih]
  simp [toJson, ofJson?, h, ofList_tables]

end Catalog

end DashQuery
