import DashQuery.BoundText
import DashQuery.Query.Basic
import DashQuery.Reference

/-! # Select statements

A checked query as data, and its text.  The text is the statement's clauses with
a space between them; names stand between double quotes, the predicate and the
expressions of computed columns as they are, and limit and offset as numbers.  The
only placeholders that the statement itself brings are those of the predicate, so
the predicate's parameters are the statement's. -/

namespace DashQuery

/-- An entry of the select list. -/
inductive SelectItem where
  | column (ref : ColumnRef) (aliasName : Option String)
  | aggregate (function : Aggregate) (ref : ColumnRef) (aliasName : String)
  | expression (text : String) (aliasName : String)
deriving DecidableEq

namespace SelectItem

/-- What is selected. -/
def body : SelectItem → String
  | column ref _ => ref.text
  | aggregate function ref _ => function.name ++ "(" ++ ref.text ++ ")"
  | expression text _ => text

/-- The alias the entry declares. -/
def aliasName? : SelectItem → Option String
  | column _ aliasName => aliasName
  | aggregate _ _ aliasName => some aliasName
  | expression _ aliasName => some aliasName

/-- The entry in statement text. -/
def text (item : SelectItem) : String :=
  match item.aliasName? with
  | some aliasName => item.body ++ " AS " ++ Name.quote aliasName
  | none => item.body

/-- The name of the entry's result column: its alias, or the column without its qualifier. -/
def resultName : SelectItem → String
  | column ref aliasName => aliasName.getD ref.column
  | aggregate _ _ aliasName => aliasName
  | expression _ aliasName => aliasName

end SelectItem

/-- A joined table with its condition. -/
structure JoinClause where
  kind : JoinKind
  table : String
  aliasName : Option String
  left : ColumnRef
  right : ColumnRef
deriving DecidableEq

namespace JoinClause

/-- The table in statement text. -/
def target (j : JoinClause) : String :=
  match j.aliasName with
  | some aliasName => Name.quote j.table ++ " AS " ++ Name.quote aliasName
  | none => Name.quote j.table

/-- The join in statement text. -/
def text (j : JoinClause) : String :=
  j.kind.name ++ " JOIN " ++ j.target ++ " ON " ++ j.left.text ++ " = " ++ j.right.text

end JoinClause

/-- The direction of a sort key. -/
inductive SortDirection where
  | ascending
  | descending
deriving DecidableEq

namespace SortDirection

/-- The direction in statement text. -/
def text : SortDirection → String
  | ascending => "ASC"
  | descending => "DESC"

/-- The direction written as `s`; the comparison is exact. -/
def parse (s : String) : Except QueryError SortDirection :=
  if s = "ASC" then .ok ascending
  else if s = "DESC" then .ok descending
  else .error (.invalidSortDirection s)

/-- A direction is read back from its text. -/
theorem parse_text (d : SortDirection) : parse d.text = .ok d := by cases d <;> rfl

end SortDirection

/-- A sort key: a column or an alias, and a direction. -/
structure SortTerm where
  ref : ColumnRef
  direction : SortDirection
deriving DecidableEq

/-- The sort key in statement text. -/
def SortTerm.text (t : SortTerm) : String := t.ref.text ++ " " ++ t.direction.text

/-- A select statement. -/
structure SelectStatement where
  /-- What is selected; nothing stands for all columns. -/
  items : List SelectItem
  source : String
  joins : List JoinClause
  /-- What rows have to meet; empty if nothing. -/
  predicate : BoundText
  groupBy : List ColumnRef
  orderBy : List SortTerm
  limit : UInt64
  offset : Option UInt64
deriving DecidableEq

namespace SelectStatement

/-- Parts of a clause with commas between them. -/
def commaSeparated (parts : List String) : String := ", ".intercalate parts

/-- The select list. -/
def itemsText (s : SelectStatement) : String :=
  if s.items.isEmpty then "*" else commaSeparated (s.items.map SelectItem.text)

/-- A clause that is left out if it has no parts. -/
def listClause (keyword : String) (parts : List String) : List String :=
  if parts.isEmpty then [] else [keyword ++ " " ++ commaSeparated parts]

/-- The condition on rows, left out if there is none. -/
def whereClause (s : SelectStatement) : List String :=
  if s.predicate.isEmpty then [] else ["WHERE " ++ s.predicate.text]

/-- The number of rows passed over, left out if none was asked for. -/
def offsetClause (s : SelectStatement) : List String :=
  match s.offset with
  | some n => ["OFFSET " ++ toString n.toNat]
  | none => []

/-- The clauses in order. -/
def clauses (s : SelectStatement) : List String :=
  ["SELECT " ++ s.itemsText, "FROM " ++ Name.quote s.source] ++ s.joins.map JoinClause.text ++
    s.whereClause ++ listClause "GROUP BY" (s.groupBy.map ColumnRef.text) ++
    listClause "ORDER BY" (s.orderBy.map SortTerm.text) ++ ["LIMIT " ++ toString s.limit.toNat] ++
    s.offsetClause

/-- The statement's text. -/
def text (s : SelectStatement) : String := " ".intercalate s.clauses

/-- What the placeholders of the text stand for, in order. -/
def params (s : SelectStatement) : List Param := s.predicate.params

end SelectStatement

end DashQuery
