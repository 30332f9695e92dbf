import DashQuery.Error
import DashQuery.Scope

/-! # Column references

A reference is a column, perhaps with the qualifier of its table; in statement
text each part stands between double quotes.  A name is turned into a reference
only after it was checked: its characters first, then whether it is legal. -/

namespace DashQuery

/-- A column, perhaps with the qualifier of its table. -/
inductive ColumnRef where
  | bare (column : String)
  | qualified (qualifier column : String)
deriving DecidableEq

namespace ColumnRef

/-- The reference of a name: split at its first dot if something stands on both sides. -/
def ofName (name : String) : ColumnRef :=
  match Name.split? name with
  | some (qualifier, column) => .qualified qualifier column
  | none => .bare name

/-- The reference in statement text. -/
def text : ColumnRef → String
  | .bare column => Name.quote column
  | .qualified qualifier column => Name.quote qualifier ++ "." ++ Name.quote column

/-- The column, without its qualifier. -/
def column : ColumnRef → String
  | .bare column => column
  | .qualified _ column => column

end ColumnRef

/-- A name must be valid. -/
def Name.check (name : String) : Except QueryError Unit :=
  if Name.isValid name then .ok () else .error (.invalidIdentifier name)

/-- A name must be valid if it is there. -/
def Name.checkOptional : Option String → Except QueryError Unit
  | some name => Name.check name
  | none => .ok ()

/-- A column must be among the legal ones. -/
def Scope.check (scope : Scope) (column : String) : Except QueryError Unit :=
  if scope.contains column then .ok () else .error (.unknownColumn column)

/-- The reference of a name that is valid and legal, in the form in which it is written. -/
def Scope.reference (scope : Scope) (name : String) : Except QueryError ColumnRef := do
  Name.check name
  scope.check name
  return ColumnRef.ofName (scope.resolve name)

/-- The quoted text of a valid name. -/
def Name.quoteChecked (name : String) : Except QueryError String := do
  Name.check name
  return Name.quoteReference name

/-! ## When a name passes -/

/-- The check accepts the valid names. -/
theorem Name.check_eq_ok_iff {name : String} :
    Name.check name = .ok () ↔ Name.isValid name = true := by
  unfold Name.check
  split <;> simp_all

/-- The check accepts the names in the scope. -/
theorem Scope.check_eq_ok_iff {scope : Scope} {column : String} :
    scope.check column = .ok () ↔ scope.contains column = true := by
  unfold Scope.check
  split <;> simp_all

end DashQuery
