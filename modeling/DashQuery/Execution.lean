import DashQuery.Json.Value
import DashQuery.Statement.Compile

/-! # Running statements

A backend runs statements one after another and may change state in between; a
run gives rows or a text that says why it failed.  Callers see only that it
failed, with the text behind it.  `Backend.recorded` keeps the statements that
were run, and `Backend.scripted` answers the n-th run with the n-th response of a
script. -/

namespace DashQuery

/-- A result row: values by result name, in the order of the names. -/
abbrev Row := List (String × Json)

/-- What runs statements; a run takes a state to a result and the next state. -/
structure Backend (σ : Type) where
  run : SelectStatement → σ → Except String (List Row) × σ

namespace Backend

/-- A backend whose answer depends on the statement alone. -/
def pure (answer : SelectStatement → Except String (List Row)) : Backend Unit :=
  ⟨fun s _ => (answer s, ())⟩

/-- Runs a statement; a failure hides its text behind `executionFailed`. -/
def execute {σ : Type} (backend : Backend σ) (s : SelectStatement) (state : σ) :
    Except QueryError (List Row) × σ :=
  match backend.run s state with
  | (.ok rows, next) => (.ok rows, next)
  | (.error cause, next) => (.error (.executionFailed cause), next)

/-- The backend with a list of the statements it was given, in order. -/
def recorded {σ : Type} (backend : Backend σ) : Backend (σ × List SelectStatement) :=
  ⟨fun s state =>
    let (result, next) := backend.run s state.1
    (result, next, state.2 ++ [s])⟩

/-- A backend that answers from a script, and fails when it is used up. -/
def scripted : Backend (List (Except String (List Row))) :=
  ⟨fun _ script =>
    match script with
    | response :: rest => (response, rest)
    | [] => (.error "no response", [])⟩

end Backend

/-- A statement together with the rows it gave. -/
structure QueryResult where
  statement : SelectStatement
  rows : List Row

/-- Compiles a query and runs its statement. -/
def Query.execute {σ : Type} (settings : Settings) (catalog : Catalog) (backend : Backend σ)
    (q : Query) (state : σ) : Except QueryError QueryResult × σ :=
  match q.compile settings catalog with
  | .error e => (.error e, state)
  | .ok s =>
    match backend.execute s state with
    | (.ok rows, next) => (.ok ⟨s, rows⟩, next)
    | (.error e, next) => (.error e, next)

end DashQuery
