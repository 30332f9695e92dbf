import DashQuery.Expression.Check
import DashQuery.Filter.Predicate
import DashQuery.Statement.Select

/-! # Compiling a query

`Query.compile` checks a query against the catalog and the settings, clause by
clause in a fixed order, and gives the statement; the first violation is the
error.  No name reaches the statement unchecked, and no value reaches its text:

1. the tables, which make up the scope (`Query.scope`)
2. the select list, which declares the aliases (`Query.selectItems`)
3. the join conditions, the filter, the grouping
4. the sort keys, which may be aliases
5. limit and offset -/

namespace DashQuery

/-! ## Tables -/

/-- What is known after some joins: the names under which tables go, the legal columns, and the
column names of the joined tables. -/
structure TableScope where
  qualifiers : List String
  scope : Scope
  joinedColumns : List String

/-- Adds a joined table.  It must be registered, and no table before it may go under the same
name. -/
def TableScope.addJoin (catalog : Catalog) (known : TableScope) (join : Join) :
    Except QueryError TableScope :=
  match catalog.table? join.table with
  | none => .error (.invalidJoinTable join.table)
  | some columns => do
    Name.check join.table
    Name.checkOptional join.aliasName
    if known.qualifiers.contains join.qualifier then .error (.invalidJoinTable join.table)
    else
      return ⟨join.qualifier :: known.qualifiers,
        known.scope.addQualified join.qualifier columns,
        columns.map Column.name ++ known.joinedColumns⟩

/-- Adds the joined tables in order. -/
def TableScope.addJoins (catalog : Catalog) (known : TableScope) :
    List Join → Except QueryError TableScope
  | [] => .ok known
  | join :: joins => do
    let known ← known.addJoin catalog join
    known.addJoins catalog joins

/-- Has the columns whose names also occur in a joined table written qualified. -/
def TableScope.resolved (known : TableScope) (source : String) (columns : List Column) : Scope :=
  columns.foldl
    (fun scope column =>
      if known.joinedColumns.contains column.name then scope.qualify column.name source else scope)
    known.scope

namespace Query

/-- The legal columns of a query whose tables are all registered and can be told apart. -/
def scope (catalog : Catalog) (q : Query) : Except QueryError Scope :=
  match catalog.table? q.sourceTable with
  | none => .error (.invalidSourceTable q.sourceTable)
  | some columns => do
    Name.check q.sourceTable
    let known : TableScope :=
      ⟨[q.sourceTable], (Scope.empty.addBare columns).addQualified q.sourceTable columns, []⟩
    let known ← known.addJoins catalog q.joins
    return known.resolved q.sourceTable columns

end Query

/-! ## The select list -/

/-- The column as it stands in an alias: underscores for its dots and blanks. -/
def maskedColumn (column : String) : String :=
  String.ofList (column.toList.map fun c => if c == '.' || isBlank c then '_' else c)

/-- The alias of an aggregate without one: the function and the column. -/
def Aggregate.defaultAlias (function : Aggregate) (column : String) : String :=
  function.lowerName ++ "_" ++ maskedColumn column

/-- A sum or an average needs a column that is numeric, or of which nothing is known. -/
def Aggregate.check (function : Aggregate) (scope : Scope) (column : String) :
    Except QueryError Unit :=
  if function.requiresNumeric && !((scope.kind? column).all ColumnKind.isNumeric) then
    .error (.nonAggregatableColumn column function.name)
  else .ok ()

/-- The entry of a selected column. -/
def ColumnSelection.item (scope : Scope) (c : ColumnSelection) :
    Except QueryError SelectItem := do
  let ref ← scope.reference c.column
  match c.aggregate with
  | some function =>
    function.check scope c.column
    let aliasName := c.aliasName.getD (function.defaultAlias c.column)
    Name.check aliasName
    return .aggregate function ref aliasName
  | none =>
    Name.checkOptional c.aliasName
    return .column ref c.aliasName

/-- The entries of the selected columns. -/
def columnItems (scope : Scope) : List ColumnSelection → Except QueryError (List SelectItem)
  | [] => .ok []
  | c :: cs => do
    let item ← c.item scope
    let items ← columnItems scope cs
    return item :: items

/-- Whether the policy lets the expression pass; `aliases` are those declared before it. -/
def ExpressionPolicy.check (policy : ExpressionPolicy) (scope : Scope) (aliases : List String)
    (expression : String) : Except QueryError Unit :=
  match policy with
  | .validated => Expression.validate scope aliases expression
  | .trusted => Expression.checkPlaceholders expression

/-- The entries of the computed columns; each may refer to the aliases declared before it. -/
def expressionItems (policy : ExpressionPolicy) (scope : Scope) (aliases : List String) :
    List ExpressionColumn → Except QueryError (List SelectItem)
  | [] => .ok []
  | c :: cs => do
    Name.check c.aliasName
    policy.check scope aliases c.expression
    let items ← expressionItems policy scope (c.aliasName :: aliases) cs
    return .expression c.expression c.aliasName :: items

/-- The aliases that entries declare. -/
def declaredAliases (items : List SelectItem) : List String :=
  items.filterMap SelectItem.aliasName?

/-- The select list of a query. -/
def Query.selectItems (policy : ExpressionPolicy) (scope : Scope) (q : Query) :
    Except QueryError (List SelectItem) := do
  let columns ← columnItems scope q.columns
  let expressions ← expressionItems policy scope (declaredAliases columns) q.expressionColumns
  return columns ++ expressions

/-! ## The other clauses -/

/-- One side of a join condition, which must be written `qualifier.column`. -/
def Scope.joinReference (scope : Scope) (name : String) : Except QueryError ColumnRef := do
  Name.check name
  if (Name.split? name).isNone then .error (.unknownColumn name)
  else scope.reference name

/-- The clause of a join. -/
def Join.clause (scope : Scope) (join : Join) : Except QueryError JoinClause := do
  let left ← scope.joinReference join.left
  let right ← scope.joinReference join.right
  return ⟨join.kind, join.table, join.aliasName, left, right⟩

/-- The clauses of the joins. -/
def joinClauses (scope : Scope) : List Join → Except QueryError (List JoinClause)
  | [] => .ok []
  | join :: joins => do
    let clause ← join.clause scope
    let clauses ← joinClauses scope joins
    return clause :: clauses

/-- The predicate of a query's filters, empty if it has none. -/
def Query.predicate (bounds : FilterBounds) (scope : Scope) (q : Query) :
    Except QueryError BoundText :=
  match q.filters with
  | some filters => filters.toGroup.predicate bounds scope
  | none => .ok .empty

/-- The references of columns. -/
def references (scope : Scope) : List String → Except QueryError (List ColumnRef)
  | [] => .ok []
  | name :: names => do
    let ref ← scope.reference name
    let refs ← references scope names
    return ref :: refs

/-- A sort key; an alias comes before a column of the same name and is quoted whole. -/
def SortKey.term (scope : Scope) (aliases : List String) (k : SortKey) :
    Except QueryError SortTerm := do
  let direction ← SortDirection.parse k.direction
  Name.check k.column
  if aliases.contains k.column then return ⟨.bare k.column, direction⟩
  else
    let ref ← scope.reference k.column
    return ⟨ref, direction⟩

/-- The sort keys. -/
def sortTerms (scope : Scope) (aliases : List String) :
    List SortKey → Except QueryError (List SortTerm)
  | [] => .ok []
  | k :: ks => do
    let t ← k.term scope aliases
    let ts ← sortTerms scope aliases ks
    return t :: ts

/-- The limit that holds for a request: the default if none is requested, and at most the
largest one. -/
def Settings.effectiveLimit (s : Settings) (requested : Option UInt64) : UInt64 :=
  let limit := requested.getD s.defaultLimit
  if limit > s.maxLimit then s.maxLimit else limit

/-- The largest offset: what a signed 64-bit integer holds. -/
def maxOffset : Nat := signedBound - 1

/-- An offset must fit a signed 64-bit integer. -/
def checkOffset (offset : Option UInt64) : Except QueryError (Option UInt64) :=
  match offset with
  | some n =>
    if n.toNat > maxOffset then .error (.invalidOffset n.toNat maxOffset) else .ok (some n)
  | none => .ok none

/-- The statement of a query, or the first reason why there is none. -/
def Query.compile (settings : Settings) (catalog : Catalog) (q : Query) :
    Except QueryError SelectStatement := do
  let scope ← q.scope catalog
  let items ← q.selectItems settings.expressionPolicy scope
  let joins ← joinClauses scope q.joins
  let predicate ← q.predicate settings.filterBounds scope
  let groupBy ← references scope q.groupBy
  let orderBy ← sortTerms scope (declaredAliases items) q.orderBy
  let offset ← checkOffset q.offset
  return ⟨items, q.sourceTable, joins, predicate, groupBy, orderBy,
    settings.effectiveLimit q.limit, offset⟩

/-! ## Limits -/

/-- The limit asked for, or the default one, is cut off at the largest one. -/
theorem Settings.effectiveLimit_toNat (s : Settings) (requested : Option UInt64) :
    (s.effectiveLimit requested).toNat =
      min (requested.getD s.defaultLimit).toNat s.maxLimit.toNat := by
  unfold effectiveLimit
  simp only [gt_iff_lt, UInt64.lt_iff_toNat_lt]
  split <;> omega

end DashQuery
