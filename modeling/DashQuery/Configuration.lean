import DashQuery.Json.Reader
import DashQuery.Settings

/-! # Loading a configuration

A configuration document is a file of JSON text in UTF-8.  Loading it fails in
one of three ways, each told with the path: there is no such file, it cannot be
read as text, or the text is no configuration. -/

namespace DashQuery

/-- What stands at a path. -/
inductive FileState where
  | missing
  /-- Something that is no readable file. -/
  | unreadable
  | bytes (contents : ByteArray)

/-- Why a configuration could not be loaded. -/
inductive ConfigError where
  | notFound (path : String)
  | unreadable (path : String)
  | malformed (path : String)
deriving DecidableEq

namespace ConfigError

/-- The stable name of the cause. -/
def kind : ConfigError → String
  | notFound _ => "NotFound"
  | unreadable _ => "Unreadable"
  | malformed _ => "Malformed"

/-- What the caller is told. -/
def message : ConfigError → String
  | notFound path => "config file not found: " ++ path
  | unreadable path => "cannot read config file " ++ path
  | malformed path => "cannot parse config file " ++ path

end ConfigError

namespace Configuration

/-- The configuration of a text. -/
def ofText? (text : String) : Option Configuration :=
  (Json.readDocument? outline text).bind ofJson?

/-- The configuration in the file at `path`. -/
def load (path : String) : FileState → Except ConfigError Configuration
  | .missing => .error (.notFound path)
  | .unreadable => .error (.unreadable path)
  | .bytes contents =>
    match String.fromUTF8? contents with
    | none => .error (.unreadable path)
    | some text =>
      match ofText? text with
      | none => .error (.malformed path)
      | some c => .ok c

end Configuration

end DashQuery
