import DashQuery.Catalog.Basic
import DashQuery.Text.Name

/-! # The columns a query may use

A scope holds every legal column reference of one query with its kind: the source
table's columns, bare and qualified by its name, and each joined table's columns
qualified by its alias or name.  A bare source column whose name also occurs in a
joined table is written in its qualified form, so that a statement stays
unambiguous; these are the scope's renamings.

Entries are kept with the newest first, so the newest decides:

* `kind?_insert`       the kind of a name after an insertion
* `resolve_qualify`    the written form of a name after a renaming -/

namespace DashQuery

/-- The legal column references of one query. -/
structure Scope where
  /-- Each reference with its kind, the newest first. -/
  kinds : List (String × ColumnKind)
  /-- The references that are written in another form, the newest first. -/
  renamings : List (String × String)

namespace Scope

/-- No column at all. -/
def empty : Scope := ⟨[], []⟩

/-- Adds a reference, or gives it a new kind. -/
def insert (scope : Scope) (name : String) (kind : ColumnKind) : Scope :=
  { scope with kinds := (name, kind) :: scope.kinds }

/-- An allow-list of names whose kinds are unknown. -/
def ofNames (names : List String) : Scope :=
  names.foldl (fun scope name => scope.insert name .unknown) empty

/-- The reference to column `name` of the table known as `qualifier`. -/
def qualified (qualifier name : String) : String := qualifier ++ "." ++ name

/-- Adds the columns of a table by their bare names. -/
def addBare (scope : Scope) (columns : List Column) : Scope :=
  columns.foldl (fun scope column => scope.insert column.name column.kind) scope

/-- Adds the columns of a table that is known as `qualifier`. -/
def addQualified (scope : Scope) (qualifier : String) (columns : List Column) : Scope :=
  columns.foldl (fun scope column => scope.insert (qualified qualifier column.name) column.kind)
    scope

/-- Has `name` written as `qualifier.name` from now on. -/
def qualify (scope : Scope) (name qualifier : String) : Scope :=
  { scope with renamings := (name, qualified qualifier name) :: scope.renamings }

/-- The kind of a legal reference. -/
def kind? (scope : Scope) (name : String) : Option ColumnKind := scope.kinds.lookup name

/-- Whether `name` is a legal reference; the comparison is exact. -/
def contains (scope : Scope) (name : String) : Bool := (scope.kind? name).isSome

/-- The form in which a legal reference is written. -/
def resolve (scope : Scope) (name : String) : String := (scope.renamings.lookup name).getD name

/-- How many references are legal. -/
def size (scope : Scope) : Nat := (scope.kinds.map Prod.fst).eraseDups.length

/-! ## The newest entry decides -/

/-- The kind of a name is the one entered last. -/
theorem kind?_insert (scope : Scope) (name other : String) (kind : ColumnKind) :
    (scope.insert name kind).kind? other =
      if other = name then some kind else scope.kind? other := by
  by_cases h : other = name
  · simp [insert, kind?, h]
  · simp [insert, kind?, List.lookup_cons, beq_eq_false_iff_ne.mpr h, h]

/-- Renaming leaves the kinds. -/
theorem kind?_qualify (scope : Scope) (name qualifier other : String) :
    (scope.qualify name qualifier).kind? other = scope.kind? other := rfl

/-- A name resolves to its form behind the qualifier entered last. -/
theorem resolve_qualify (scope : Scope) (name qualifier other : String) :
    (scope.qualify name qualifier).resolve other =
      if other = name then qualified qualifier name else scope.resolve other := by
  by_cases h : other = name
  · simp [qualify, resolve, h]
  · simp [qualify, resolve, List.lookup_cons, beq_eq_false_iff_ne.mpr h, h]

end Scope

end DashQuery
