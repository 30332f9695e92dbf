import DashQuery.Json.Record

/-! # Columns and their kinds

A kind is a coarse type; the compiler looks at it only to decide which aggregates
a column admits.  `ColumnKind.ofDeclaration` reads a kind off the type with which
a column was declared in a database. -/

namespace DashQuery

/-- A coarse column type. -/
inductive ColumnKind where
  | integer
  | real
  | numeric
  | text
  | date
  | boolean
  /-- Nothing was declared, so nothing is refused. -/
  | unknown
deriving DecidableEq

namespace ColumnKind

/-- The kind's name. -/
def name : ColumnKind → String
  | integer => "integer"
  | real => "real"
  | numeric => "numeric"
  | text => "text"
  | date => "date"
  | boolean => "boolean"
  | unknown => "unknown"

/-- The kind of a name. -/
def ofName? : String → Option ColumnKind
  | "integer" => some integer
  | "real" => some real
  | "numeric" => some numeric
  | "text" => some text
  | "date" => some date
  | "boolean" => some boolean
  | "unknown" => some unknown
  | _ => none

/-- A kind is read back by its name. -/
theorem ofName?_name (kind : ColumnKind) : ofName? kind.name = some kind := by
  cases kind <;> rfl

/-- Whether sums and averages make sense. -/
def isNumeric : ColumnKind → Bool
  | integer | real | numeric | unknown => true
  | text | date | boolean => false

/-- Whether `word` occurs in `cs` without a gap. -/
def occursIn (word : List Char) : List Char → Bool
  | [] => word.isEmpty
  | c :: cs => word.isPrefixOf (c :: cs) || occursIn word cs

/-- `occursIn` finds exactly the words that the text can be split around. -/
theorem occursIn_iff {word cs : List Char} : occursIn word cs = true ↔ word <:+: cs := by
  induction cs with
  | nil => simp [occursIn]
  | cons c cs ih => simp [occursIn, ih, List.infix_cons_iff]

/-- The kind of a column declared as `declaration`, compared without regard to ASCII case.  The
first word found decides: `BLOB` (or an empty declaration), `INT`, a text word, a floating-point
word, `BOOL`, a date word. -/
def ofDeclaration (declaration : String) : ColumnKind :=
  let text := declaration.toList.map Char.toUpper
  let has := fun word : String => occursIn word.toList text
  if text.isEmpty || has "BLOB" then unknown
  else if has "INT" then integer
  else if has "CHAR" || has "CLOB" || has "TEXT" then ColumnKind.text
  else if has "REAL" || has "FLOA" || has "DOUB" then real
  else if has "BOOL" then boolean
  else if has "DATE" || has "TIME" then date
  else numeric

/-- The kind in JSON. -/
def toJson (kind : ColumnKind) : Json := .str kind.name

/-- The kind written in JSON. -/
def ofJson? (j : Json) : Option ColumnKind := (Json.variant? j).bind ofName?

/-- A kind is read back. -/
theorem ofJson?_toJson (kind : ColumnKind) : ofJson? kind.toJson = some kind :=
  ofName?_name kind

end ColumnKind

/-- A column of a table. -/
structure Column where
  name : String
  kind : ColumnKind
deriving DecidableEq

namespace Column

/-- The column in JSON. -/
def toJson (column : Column) : Json :=
  .obj [("name", .str column.name), ("type", column.kind.toJson)]

/-- A column is written as a bare name, whose kind is unknown, or as an object. -/
def ofJson? : Json → Option Column
  | .str name => some ⟨name, .unknown⟩
  | .obj members =>
    match Json.fields? ["name", "type"] (.obj members) with
    | some [name, kind] => do
      let name ← Json.required Json.string? name
      let kind ← Json.withDefault .unknown ColumnKind.ofJson? kind
      return ⟨name, kind⟩
    | _ => none
  | _ => none

/-- A column is read back. -/
theorem ofJson?_toJson (column : Column) : ofJson? column.toJson = some column := by
  simp [toJson, ofJson?, Json.fields?, Json.required, Json.withDefault, Json.string?,
    ColumnKind.ofJson?_toJson, List.lookup_cons]

end Column

end DashQuery
