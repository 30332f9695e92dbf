import DashQuery.Console.Arguments
import DashQuery.Console.Session

/-! # The command line

Reads queries line by line and prints the session's answers.  `--schema` names a
configuration document and `--db` a database, described by its definitions in
JSON.  All decisions are `Session`'s. -/

open DashQuery

/-- What stands at a path. -/
def readState (path : String) : IO FileState := do
  try
    return .bytes (← IO.FS.readBinFile path)
  catch e =>
    match e with
    | .noFileOrDirectory .. => return .missing
    | _ => return .unreadable

/-- The database described in the file at a path. -/
def readDatabase (path : String) : IO Database := do
  let text ← IO.FS.readFile path
  match (Json.readDocument? .whole text).bind Database.ofJson? with
  | some db => return db
  | none => throw (IO.userError ("cannot open database " ++ path))

/-- The session that the arguments ask for. -/
def openSession (arguments : Arguments) : IO Session := do
  let database ← arguments.database.mapM readDatabase
  let configuration ← arguments.schema.mapM fun path => do
    match Configuration.load path (← readState path) with
    | .ok c => return c
    | .error e => throw (IO.userError e.message)
  match Session.start? configuration database with
  | some session => return session
  | none => throw (IO.userError "either --schema or --db is required")

/-- Answers lines until the input or the session ends; the result says whether it ends in turn. -/
partial def answerLines (session : Session) (input output : IO.FS.Stream) : IO Bool := do
  let line ← input.getLine
  if line.isEmpty then return true
  match session.respond line with
  | .quit => return true
  | .breakdown => return false
  | .lines answers =>
    answers.forM output.putStrLn
    output.flush
    answerLines session input output

/-- Runs a session over standard input and output. -/
def main (arguments : List String) : IO UInt32 := do
  match Arguments.parse arguments with
  | none =>
    IO.eprintln "usage: [--schema <path>] [--db <path>]"
    return 2
  | some arguments =>
    try
      let session ← openSession arguments
      Session.banner.forM IO.println
      let completed ← answerLines session (← IO.getStdin) (← IO.getStdout)
      return Transcript.exitCode ⟨[], completed⟩
    catch e =>
      IO.eprintln ("Error: " ++ toString e)
      return 1
