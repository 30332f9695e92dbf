import DashQuery.Facet
import DashQuery.Storage.Cell

/-! # A small row store

A database is a list of named relations; a view is a relation with the columns
and rows of another one.  `Database.catalog` makes a catalog of its declared
columns, and `Database.run` answers the statements that need no query engine:
those over a source without rows, plain selections, and the counts of facets.
Names of relations and columns are found without regard to ASCII case. -/

namespace DashQuery

/-- A column of a relation: its name, its type as declared, and whether it is computed from other
columns. -/
structure StoredColumn where
  name : String
  declaredType : String
  isComputed : Bool

/-- The kind of values of a column by its declared type. -/
def StoredColumn.kind (c : StoredColumn) : ColumnKind := ColumnKind.ofDeclaration c.declaredType

/-- Columns and rows. -/
structure Relation where
  columns : List StoredColumn
  rows : List (List Cell)

/-- Named relations. -/
structure Database where
  relations : List (String × Relation)

namespace Database

/-- The text in ASCII small letters. -/
def lowercase (s : String) : String := String.ofList (s.toList.map Char.toLower)

/-- Whether two names are the same but for ASCII case. -/
def sameName (a b : String) : Bool := lowercase a == lowercase b

/-- The relation called `name`. -/
def relation? (db : Database) (name : String) : Option Relation :=
  (db.relations.find? fun r => sameName r.1 name).map Prod.snd

/-! ## Declarations of columns -/

/-- The words with which a constraint on a column starts. -/
def constraintWords : List String :=
  ["CONSTRAINT", "PRIMARY", "NOT", "NULL", "UNIQUE", "CHECK", "DEFAULT", "COLLATE", "REFERENCES",
    "GENERATED", "AS"]

/-- Whether the token is one of some words, in capitals or not. -/
def isWord (words : List String) (t : Token) : Bool :=
  t.kind == .identifier && words.contains (Expression.capitals t.text)

/-- The declared type of a column: what comes before the first constraint. -/
def declaredType (declaration : String) : String :=
  " ".intercalate
    (((Token.scan declaration).takeWhile fun t => !isWord constraintWords t).map Token.text)

/-- The tokens that stand in no parentheses, of some that stand in `depth` ones. -/
def outerTokens (depth : Nat) : List Token → List Token
  | [] => []
  | t :: ts =>
    match t.kind with
    | .leftParen => outerTokens (depth + 1) ts
    | .rightParen => outerTokens (depth - 1) ts
    | _ => if depth = 0 then t :: outerTokens depth ts else outerTokens depth ts

/-- Whether a column is computed from others, which a clause of its declaration says. -/
def isGenerated (declaration : String) : Bool :=
  (outerTokens 0 (Token.scan declaration)).any (isWord ["AS"])

/-- The column that a declaration makes. -/
def declaredColumn (name declaration : String) : StoredColumn :=
  ⟨name, declaredType declaration, isGenerated declaration⟩

/-! ## Relations -/

/-- A view of a relation: its columns keep their types, and none of them is computed. -/
def viewOf (r : Relation) : Relation :=
  { r with columns := r.columns.map fun c => { c with isComputed := false } }

/-- The row as it is stored in columns. -/
def storedRow (columns : List StoredColumn) (row : List Cell) : List Cell :=
  (columns.zip row).map fun c => c.2.inColumn c.1.kind

/-! ## Definitions in JSON -/

/-- A row of cells in JSON. -/
def rowOfJson? (j : Json) : Option (List Cell) := Json.list? Cell.ofJson? j

/-- A column with its declaration in JSON. -/
def columnOfJson? : Json → Option StoredColumn
  | .arr [.str name, .str declaration] => some (declaredColumn name declaration)
  | _ => none

/-- The columns and rows of a definition in JSON; a view takes those of a relation that is there
already. -/
def relationOfJson? (db : Database) (members : List (String × Json)) : Option Relation :=
  match Json.member? "view_of" members with
  | some table => ((Json.string? table).bind db.relation?).map viewOf
  | none => do
    let columns ← (Json.member? "columns" members).bind (Json.list? columnOfJson?)
    let rows ← Json.withDefault [] (Json.list? rowOfJson?) (Json.member? "rows" members)
    return ⟨columns, rows.map (storedRow columns)⟩

/-- Adds the table or view defined in JSON. -/
def define? (db : Database) : Json → Option Database
  | .obj members => do
    let name ← (Json.member? "name" members).bind Json.string?
    let relation ← db.relationOfJson? members
    return ⟨db.relations ++ [(name, relation)]⟩
  | _ => none

/-- The database defined by a list in JSON. -/
def ofJson? : Json → Option Database
  | .arr definitions => definitions.foldlM define? ⟨[]⟩
  | _ => none

/-! ## The catalog of a database -/

/-- Whether a relation is the database's own: its name matches `sqlite_%`, where the underscore
stands for any character. -/
def isInternal (name : String) : Bool :=
  "sqlite".toList.isPrefixOf (lowercase name).toList && name.toList.length > 6

/-- The columns of a relation with the kinds of their declared types.  A computed column is not
listed. -/
def columnsOf (r : Relation) : List Column :=
  (r.columns.filter fun c => !c.isComputed).map fun c => ⟨c.name, c.kind⟩

/-- The catalog of all relations but the database's own. -/
def catalog (db : Database) : Catalog :=
  Catalog.ofList ((db.relations.filter fun r => !isInternal r.1).map fun r => (r.1, columnsOf r.2))

/-! ## Running statements -/

/-- The cell of a row under a column's name, with that name as it was declared. -/
def namedCell? (r : Relation) (row : List Cell) (column : String) : Option (String × Cell) :=
  ((r.columns.map StoredColumn.name).zip row).find? fun c => sameName c.1 column

/-- The cell of a row under a column's name. -/
def cell? (r : Relation) (row : List Cell) (column : String) : Option Cell :=
  (namedCell? r row column).map Prod.snd

/-- The value of a selected column in a row, with its result name: the alias or the declared
name. -/
def projected? (r : Relation) (row : List Cell) : SelectItem → Option (String × Json)
  | .column ref aliasName =>
    (namedCell? r row ref.column).map fun c => (aliasName.getD c.1, c.2.toJson)
  | _ => none

/-- The selected columns of a row by result name; of several equal names the last stays. -/
def project? (r : Relation) (items : List SelectItem) (row : List Cell) : Option Row :=
  if items.isEmpty then
    some (Ordered.ofList ((r.columns.map StoredColumn.name).zip (row.map Cell.toJson)))
  else (items.mapM (projected? r row)).map Ordered.ofList

/-- Counts a value once more. -/
def tally (counts : List (Cell × Nat)) (c : Cell) : List (Cell × Nat) :=
  match counts with
  | [] => [(c, 1)]
  | (d, n) :: rest => if !c.lt d && !d.lt c then (d, n + 1) :: rest else (d, n) :: tally rest c

/-- The distinct values with their counts: the most frequent first, equally frequent ones in the
order of values. -/
def distinct (cells : List Cell) : List (Cell × Nat) :=
  (cells.foldl tally []).mergeSort fun a b => a.2 > b.2 || (a.2 == b.2 && !b.1.lt a.1)

/-- The rows of a facet's statement. -/
def facetRows? (r : Relation) (s : SelectStatement) : Option (List Row) :=
  match s.items, s.groupBy with
  | [.column ref (some value), .expression "COUNT(*)" count], [group] =>
    if ref = group ∧ s.orderBy = [⟨.bare count, .descending⟩, ⟨.bare value, .ascending⟩] then do
      let cells ← r.rows.mapM fun row => cell? r row ref.column
      return (distinct cells).map fun c => Ordered.ofList [(value, c.1.toJson), (count, .int c.2)]
    else none
  | _, _ => none

/-- All rows of a statement without joins and conditions, if it has a form that is known. -/
def rows? (r : Relation) (s : SelectStatement) : Option (List Row) :=
  if s.groupBy.isEmpty && s.orderBy.isEmpty then r.rows.mapM (project? r s.items)
  else facetRows? r s

/-- The rows that limit and offset leave. -/
def window (s : SelectStatement) (rows : List Row) : List Row :=
  (rows.drop (s.offset.getD 0).toNat).take s.limit.toNat

/-- Answers a statement. -/
def run (db : Database) (s : SelectStatement) : Except String (List Row) :=
  match (s.source :: s.joins.map JoinClause.table).find? fun t => (db.relation? t).isNone with
  | some missing => .error ("no such table: " ++ missing)
  | none =>
    match db.relation? s.source with
    | none => .error ("no such table: " ++ s.source)
    | some r =>
      if s.limit.toNat > maxOffset then .error "datatype mismatch"
      else if r.rows.isEmpty then .ok []
      else if s.joins.isEmpty && s.predicate.isEmpty then
        match rows? r s with
        | some rows => .ok (window s rows)
        | none => .error "unsupported statement"
      else .error "unsupported statement"

/-- The database as a backend. -/
def backend (db : Database) : Backend Unit := Backend.pure db.run

end Database

end DashQuery
