import DashQuery.Configuration
import DashQuery.Console.Listing
import DashQuery.Console.Typed
import DashQuery.Json.Writer
import DashQuery.Query.Json
import DashQuery.Storage.Database

/-! # Console sessions

A session answers lines: a query in JSON is compiled and, if there is a database,
run; `:facets` does so for the facets of several columns; `:tables` lists the
catalog and `:quit` ends the session.  Everything here is a function from lines to
lines; reading and printing are the command line's work. -/

namespace DashQuery

/-- What a session works with. -/
structure Session where
  catalog : Catalog
  settings : Settings
  database : Option Database

/-- What a line asks for. -/
inductive Command where
  | quit
  | tables
  | facets (query : Query) (targets : List String)
  | query (query : Query)
  /-- A facet command without a query. -/
  | facetUsage
  | invalidQuery

namespace Command

/-- The items between commas, trimmed, without empty ones. -/
def targetsOf (cs : List Char) : List String :=
  ((cs.splitOn ',').map fun item => String.ofList (trimBlanks item)).filter fun t => t != ""

/-- What follows the word of the facet command: targets up to the first blank, then a query. -/
def parseFacets (cs : List Char) : Command :=
  let body := cs.dropWhile isBlank
  match body.dropWhile fun c => !isBlank c with
  | [] => facetUsage
  | _ :: json =>
    match Query.ofText? (String.ofList (trimBlanks json)) with
    | some q => facets q (targetsOf (body.takeWhile fun c => !isBlank c))
    | none => invalidQuery

/-- The word with which the facet command starts. -/
def facetWord : List Char := ":facets".toList

/-- The command of a trimmed line. -/
def parse (line : String) : Command :=
  if line = ":quit" ∨ line = ":q" then quit
  else if line = ":tables" then tables
  else if facetWord.isPrefixOf line.toList then
    parseFacets (line.toList.drop facetWord.length)
  else
    match Query.ofText? line with
    | some q => query q
    | none => invalidQuery

end Command

/-- The lines that report an error. -/
def QueryError.report (e : QueryError) : List String :=
  ("✗ " ++ e.kind ++ " (" ++ toString e.status ++ "): " ++ e.message) ::
    match e.cause? with
    | some cause => ["  caused by: " ++ cause]
    | none => []

/-- What an input line leads to. -/
inductive Reply where
  | lines (answers : List String)
  | quit
  /-- The line cannot be edited, and the session ends out of turn. -/
  | breakdown
deriving DecidableEq

/-- What a session prints, and whether it ends in turn. -/
structure Transcript where
  lines : List String
  completed : Bool
deriving DecidableEq

/-- The exit code of a session that is over. -/
def Transcript.exitCode (t : Transcript) : UInt32 := if t.completed then 0 else 101

namespace Session

/-- The greeting. -/
def banner : List String :=
  ["--- Treasury Query: query description to SQL compiler ---",
    "Enter a query JSON, `:facets col1,col2 <query json>`, `:tables` or `:quit`."]

/-- The tables with their columns. -/
def tableLines (session : Session) : List String :=
  session.catalog.tables.map fun t =>
    "  " ++ t.1 ++ " (" ++ ", ".intercalate (t.2.map Column.name) ++ ")"

/-- The answer to a query: its statement and parameters, and its rows if there is a database. -/
def queryLines (session : Session) (q : Query) : List String :=
  match q.compile session.settings session.catalog with
  | .error e => e.report
  | .ok s =>
    ["", "[SQL]:", s.text, "[params]: " ++ Param.listings s.params] ++
      match session.database with
      | none => []
      | some db =>
        match (db.backend.execute s ()).1 with
        | .error e => e.report
        | .ok rows =>
          (rows.map fun row => Json.write (.obj row)) ++ ["✓ " ++ toString rows.length ++ " rows"]

/-- What would run for the facet of one column. -/
def facetStatementLines (session : Session) (q : Query) (target : String) : List String :=
  match q.compileFacet session.settings session.catalog target with
  | .error e => e.report
  | .ok s => ["[" ++ target ++ "]: " ++ s.text ++ "  " ++ Param.listings s.params]

/-- The facet of one column. -/
def facetValueLines (facets : Facets) (target : String) : List String :=
  ("[" ++ target ++ "]:") ::
    ((facets.lookup target).getD []).map fun v =>
      "  " ++ Json.write v.value ++ " → " ++ toString v.count

/-- The answer to a facet command: the facets, or without a database what would run. -/
def facetLines (session : Session) (q : Query) (targets : List String) : List String :=
  match session.database with
  | none => targets.flatMap (session.facetStatementLines q)
  | some db =>
    match (Facets.compute session.settings session.catalog db.backend q targets ()).1 with
    | .error e => e.report
    | .ok facets => targets.flatMap (facetValueLines facets)

/-- The reply to a command. -/
def answer (session : Session) : Command → Reply
  | .quit => .quit
  | .tables => .lines session.tableLines
  | .facets q targets => .lines (session.facetLines q targets)
  | .query q => .lines (session.queryLines q)
  | .facetUsage => .lines ["✗ usage: :facets col1,col2 <query json>"]
  | .invalidQuery => .lines ["✗ invalid query JSON"]

/-- The reply to an input line, after its backspaces and without blanks around it; a blank line
has no answer. -/
def respond (session : Session) (line : String) : Reply :=
  match typed? line.toList with
  | none => .breakdown
  | some cs =>
    match trimBlanks cs with
    | [] => .lines []
    | c :: cs => session.answer (Command.parse (String.ofList (c :: cs)))

/-- The answers to lines until the session ends. -/
def respondAll (session : Session) : List String → Transcript
  | [] => ⟨[], true⟩
  | line :: lines =>
    match session.respond line with
    | .quit => ⟨[], true⟩
    | .breakdown => ⟨[], false⟩
    | .lines answers =>
      let rest := session.respondAll lines
      ⟨answers ++ rest.lines, rest.completed⟩

/-- All that a session prints. -/
def transcript (session : Session) (lines : List String) : Transcript :=
  let answers := session.respondAll lines
  ⟨banner ++ answers.lines, answers.completed⟩

/-- A session over a configuration, a database, or both; the tables of a database count only
without a configuration, and one of the two is needed. -/
def start? (configuration : Option Configuration) (database : Option Database) : Option Session :=
  match configuration, database with
  | some c, db => some ⟨c.catalog, c.settings, db⟩
  | none, some db => some ⟨db.catalog, .default, some db⟩
  | none, none => none

end Session

end DashQuery
