/-! # Why a query is refused

One constructor per cause.  All but the last are the caller's fault and carry the
offending name or value; the last wraps whatever went wrong while running a
statement, and its wording does not show the wrapped text. -/

namespace DashQuery

/-- Every way compiling or running a query can fail. -/
inductive QueryError where
  /-- A name holds a character outside the whitelist, or none at all. -/
  | invalidIdentifier (name : String)
  /-- A column is not among those the query may use. -/
  | unknownColumn (column : String)
  /-- The source table is not registered. -/
  | invalidSourceTable (table : String)
  /-- A joined table is not registered, or cannot be told apart from another table. -/
  | invalidJoinTable (table : String)
  /-- A filter uses an operator outside the closed set. -/
  | invalidOperator (operator : String)
  /-- A membership test has no candidates. -/
  | emptyInList (column operator : String)
  /-- A range test does not have two bounds. -/
  | wrongArity (column : String) (found : Nat)
  /-- The value has a shape that the operator cannot take. -/
  | wrongValueType (column operator found : String)
  /-- Groups are nested deeper than the settings allow. -/
  | filterTooDeep (depth max : Nat)
  /-- A group has more entries than the settings allow. -/
  | tooManyConditions (count max : Nat)
  /-- A sort direction is neither `ASC` nor `DESC`. -/
  | invalidSortDirection (direction : String)
  /-- An offset does not fit a signed 64-bit integer. -/
  | invalidOffset (offset max : Nat)
  /-- A sum or average over a column that is not numeric. -/
  | nonAggregatableColumn (column function : String)
  /-- A computed column's expression is refused at one of its tokens. -/
  | unsafeExpression (expression token : String)
  /-- Running the statement failed; `cause` is what the executor said. -/
  | executionFailed (cause : String)
deriving DecidableEq

namespace QueryError

/-- The stable name of the cause. -/
def kind : QueryError → String
  | invalidIdentifier _ => "InvalidIdentifier"
  | unknownColumn _ => "UnknownColumn"
  | invalidSourceTable _ => "InvalidSourceTable"
  | invalidJoinTable _ => "InvalidJoinTable"
  | invalidOperator _ => "InvalidOperator"
  | emptyInList _ _ => "EmptyInList"
  | wrongArity _ _ => "WrongArity"
  | wrongValueType _ _ _ => "WrongValueType"
  | filterTooDeep _ _ => "FilterTooDeep"
  | tooManyConditions _ _ => "TooManyConditions"
  | invalidSortDirection _ => "InvalidSortDirection"
  | invalidOffset _ _ => "InvalidOffset"
  | nonAggregatableColumn _ _ => "NonAggregatableColumn"
  | unsafeExpression _ _ => "UnsafeExpression"
  | executionFailed _ => "ExecutionFailed"

/-- What the caller is told. -/
def message : QueryError → String
  | invalidIdentifier name => "invalid identifier '" ++ name ++ "'"
  | unknownColumn column => "unknown column '" ++ column ++ "'"
  | invalidSourceTable table => "invalid source table '" ++ table ++ "'"
  | invalidJoinTable table => "invalid join table '" ++ table ++ "'"
  | invalidOperator operator => "invalid operator '" ++ operator ++ "'"
  | emptyInList column operator =>
    operator ++ " on '" ++ column ++ "' requires a non-empty list"
  | wrongArity column found =>
    "BETWEEN on '" ++ column ++ "' requires exactly 2 values, got " ++ toString found
  | wrongValueType column operator found =>
    operator ++ " on '" ++ column ++ "' cannot take " ++ found
  | filterTooDeep depth max =>
    "filter nesting depth " ++ toString depth ++ " exceeds the limit of " ++ toString max
  | tooManyConditions count max =>
    "filter group has " ++ toString count ++ " conditions, the limit is " ++ toString max
  | invalidSortDirection direction => "invalid sort direction '" ++ direction ++ "'"
  | invalidOffset offset max =>
    "offset " ++ toString offset ++ " exceeds the limit of " ++ toString max
  | nonAggregatableColumn column function =>
    function ++ " cannot be applied to non-numeric column '" ++ column ++ "'"
  | unsafeExpression expression token =>
    "expression '" ++ expression ++ "' rejected at '" ++ token ++ "'"
  | executionFailed _ => "query execution failed"

/-- The status class: a refused query is the caller's fault, a failed run is ours. -/
def status : QueryError → Nat
  | executionFailed _ => 500
  | _ => 400

/-- Whether the query was refused before anything ran. -/
def isValidation (e : QueryError) : Bool := e.status == 400

/-- What lies behind the message, where there is something behind it. -/
def cause? : QueryError → Option String
  | executionFailed cause => some cause
  | _ => none

end QueryError

end DashQuery
