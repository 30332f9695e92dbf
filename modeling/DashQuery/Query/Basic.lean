import DashQuery.Filter.Basic

/-! # Query descriptions

A query as a dashboard client describes it.  It is plain data: nothing in it has
been checked, and directions and operators are still text, so that the compiler
can refuse them with a precise error. -/

namespace DashQuery

/-- The aggregate functions a column may be selected under. -/
inductive Aggregate where
  | count
  | sum
  | avg
  | min
  | max
deriving DecidableEq

namespace Aggregate

/-- The function's name in statement text. -/
def name : Aggregate → String
  | count => "COUNT"
  | sum => "SUM"
  | avg => "AVG"
  | min => "MIN"
  | max => "MAX"

/-- The function's name in small letters, with which synthesised aliases start. -/
def lowerName : Aggregate → String
  | count => "count"
  | sum => "sum"
  | avg => "avg"
  | min => "min"
  | max => "max"

/-- Sums and averages make sense over numeric columns only. -/
def requiresNumeric : Aggregate → Bool
  | sum | avg => true
  | count | min | max => false

/-- The function of a name. -/
def ofName? : String → Option Aggregate
  | "COUNT" => some count
  | "SUM" => some sum
  | "AVG" => some avg
  | "MIN" => some min
  | "MAX" => some max
  | _ => none

/-- A function is found by its name. -/
theorem ofName?_name (f : Aggregate) : ofName? f.name = some f := by cases f <;> rfl

end Aggregate

/-- A selected column, perhaps under an aggregate function. -/
structure ColumnSelection where
  column : String
  aliasName : Option String
  aggregate : Option Aggregate
deriving DecidableEq

/-- A computed column: an expression that is written as it is, and a name for it. -/
structure ExpressionColumn where
  expression : String
  aliasName : String
deriving DecidableEq

/-- Which unmatched rows a join keeps. -/
inductive JoinKind where
  | left
  | inner
  | right
deriving DecidableEq

namespace JoinKind

/-- The kind's keyword. -/
def name : JoinKind → String
  | left => "LEFT"
  | inner => "INNER"
  | right => "RIGHT"

/-- The kind of a keyword. -/
def ofName? : String → Option JoinKind
  | "LEFT" => some left
  | "INNER" => some inner
  | "RIGHT" => some right
  | _ => none

/-- A kind of join is found by its name. -/
theorem ofName?_name (k : JoinKind) : ofName? k.name = some k := by cases k <;> rfl

end JoinKind

/-- A joined table, and the two `qualifier.column` references that must agree. -/
structure Join where
  kind : JoinKind
  table : String
  aliasName : Option String
  left : String
  right : String
deriving DecidableEq

/-- The name under which other clauses refer to the joined table. -/
def Join.qualifier (join : Join) : String := join.aliasName.getD join.table

/-- A sort key: a column or alias, and a direction that is not yet checked. -/
structure SortKey where
  column : String
  direction : String
deriving DecidableEq

/-- A query description. -/
structure Query where
  sourceTable : String
  columns : List ColumnSelection
  expressionColumns : List ExpressionColumn
  joins : List Join
  filters : Option Filters
  groupBy : List String
  orderBy : List SortKey
  limit : Option UInt64
  offset : Option UInt64

end DashQuery
