/-! # Command-line arguments

The console takes two options, each with a path: `--schema` for a configuration
document and `--db` for a database.  An option and its path are two arguments, or
one with an equals sign between them. -/

namespace DashQuery

/-- The paths given on the command line. -/
structure Arguments where
  schema : Option String
  database : Option String
deriving DecidableEq

namespace Arguments

/-- The path of an argument that starts with `option` and an equals sign. -/
def inline? (option argument : String) : Option String :=
  let start := option.toList ++ ['=']
  if start.isPrefixOf argument.toList then
    some (String.ofList (argument.toList.drop start.length))
  else none

/-- Reads arguments on top of those already known; neither option may be given twice. -/
def parseFrom (known : Arguments) : List String → Option Arguments
  | [] => some known
  | argument :: rest =>
    match inline? "--schema" argument, inline? "--db" argument with
    | some path, _ =>
      if known.schema.isSome then none else parseFrom { known with schema := path } rest
    | none, some path =>
      if known.database.isSome then none else parseFrom { known with database := path } rest
    | none, none =>
      match rest with
      | path :: rest =>
        if argument = "--schema" ∧ known.schema.isNone then
          parseFrom { known with schema := path } rest
        else if argument = "--db" ∧ known.database.isNone then
          parseFrom { known with database := path } rest
        else none
      | [] => none

/-- The paths that the arguments give, if they are well formed. -/
def parse (arguments : List String) : Option Arguments := parseFrom ⟨none, none⟩ arguments

end Arguments

end DashQuery
