/-! # Outlines of documents

Whoever decodes a record looks only at the fields it knows.  An outline says
beforehand which parts of a document will be looked at, so that its reader can
pass over the others. -/

namespace DashQuery.Json

/-- Which parts of a document matter. -/
inductive Outline where
  /-- Nothing does. -/
  | ignored
  /-- Everything does. -/
  | whole
  /-- The known fields of a record, in their order of declaration. -/
  | record (fields : List (String × Outline))
  /-- The same parts of each item of a list. -/
  | list (item : Outline)

namespace Outline

/-- Whether nothing matters. -/
def isIgnored : Outline → Bool
  | ignored => true
  | _ => false

/-- What matters of the member called `key`. -/
def member (key : String) : Outline → Outline
  | ignored => ignored
  | record fields => (fields.lookup key).getD ignored
  | whole => whole
  | list _ => whole

/-- What matters of the item at `index`. -/
def item (index : Nat) : Outline → Outline
  | ignored => ignored
  | record fields => (fields[index]?.map Prod.snd).getD whole
  | whole => whole
  | list o => o

/-- A record of which each field matters as a whole. -/
def fields (names : List String) : Outline := record (names.map fun name => (name, whole))

end Outline

end DashQuery.Json
