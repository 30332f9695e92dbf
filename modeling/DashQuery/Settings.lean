import DashQuery.Catalog.Basic
import DashQuery.Json.Outline

/-! # Settings and the configuration document

The settings bound what a single query may ask for.  A configuration document
holds the registered tables and the settings; both may be missing.

* `Configuration.ofJson?_toJson`   what is written is read back -/

namespace DashQuery

/-- How far the expressions of computed columns are trusted. -/
inductive ExpressionPolicy where
  /-- Written as they are, for queries that administrators wrote. -/
  | trusted
  /-- Checked token by token, for queries of end users. -/
  | validated
deriving DecidableEq

namespace ExpressionPolicy

/-- The policy's name. -/
def name : ExpressionPolicy → String
  | trusted => "trusted"
  | validated => "validated"

/-- The policy of a name. -/
def ofName? : String → Option ExpressionPolicy
  | "trusted" => some trusted
  | "validated" => some validated
  | _ => none

/-- The policy in JSON. -/
def toJson (p : ExpressionPolicy) : Json := .str p.name

/-- The policy written in JSON. -/
def ofJson? (j : Json) : Option ExpressionPolicy := (Json.variant? j).bind ofName?

/-- A policy is read back. -/
theorem ofJson?_toJson (p : ExpressionPolicy) : ofJson? p.toJson = some p := by
  cases p <;> rfl

end ExpressionPolicy

/-- The bounds on a single query. -/
structure Settings where
  /-- The limit of a query that does not give one. -/
  defaultLimit : UInt64
  /-- The largest limit; a larger one is brought down to it. -/
  maxLimit : UInt64
  /-- How deep filter groups may be nested. -/
  maxFilterDepth : UInt64
  /-- How many entries a filter group may have. -/
  maxGroupConditions : UInt64
  expressionPolicy : ExpressionPolicy
deriving DecidableEq

namespace Settings

/-- The settings where none are given. -/
def default : Settings := ⟨1000, 10000, 10, 100, .trusted⟩

/-- The settings in JSON. -/
def toJson (s : Settings) : Json :=
  .obj [("default_limit", .int s.defaultLimit.toNat), ("max_limit", .int s.maxLimit.toNat),
    ("max_filter_depth", .int s.maxFilterDepth.toNat),
    ("max_group_conditions", .int s.maxGroupConditions.toNat),
    ("expression_policy", s.expressionPolicy.toJson)]

/-- The fields of the settings. -/
def outline : Json.Outline :=
  .fields ["default_limit", "max_limit", "max_filter_depth", "max_group_conditions",
    "expression_policy"]

/-- The settings written in JSON; what is missing has its default. -/
def ofJson? (j : Json) : Option Settings :=
  match Json.fields? ["default_limit", "max_limit", "max_filter_depth", "max_group_conditions",
      "expression_policy"] j with
  | some [defaultLimit, maxLimit, depth, conditions, policy] => do
    let defaultLimit ← Json.withDefault default.defaultLimit Json.word? defaultLimit
    let maxLimit ← Json.withDefault default.maxLimit Json.word? maxLimit
    let depth ← Json.withDefault default.maxFilterDepth Json.word? depth
    let conditions ← Json.withDefault default.maxGroupConditions Json.word? conditions
    let policy ← Json.withDefault default.expressionPolicy ExpressionPolicy.ofJson? policy
    return ⟨defaultLimit, maxLimit, depth, conditions, policy⟩
  | _ => none

/-- Settings are read back. -/
theorem ofJson?_toJson (s : Settings) : ofJson? s.toJson = some s := by
  simp [toJson, ofJson?, Json.fields?, Json.withDefault_some, Json.word?_ofNat,
    ExpressionPolicy.ofJson?_toJson, List.lookup_cons]

end Settings

/-- The contents of a configuration document. -/
structure Configuration where
  catalog : Catalog
  settings : Settings

namespace Configuration

/-- The configuration in JSON. -/
def toJson (c : Configuration) : Json :=
  .obj [("tables", c.catalog.toJson), ("compiler", c.settings.toJson)]

/-- The fields of a configuration. -/
def outline : Json.Outline := .record [("tables", .whole), ("compiler", Settings.outline)]

/-- The configuration written in JSON. -/
def ofJson? (j : Json) : Option Configuration :=
  match Json.fields? ["tables", "compiler"] j with
  | some [tables, settings] => do
    let catalog ← Json.withDefault Catalog.empty Catalog.ofJson? tables
    let settings ← Json.withDefault Settings.default Settings.ofJson? settings
    return ⟨catalog, settings⟩
  | _ => none

/-- A configuration is read back. -/
theorem ofJson?_toJson (c : Configuration) : ofJson? c.toJson = some c := by
  simp [toJson, ofJson?, Json.fields?, Json.withDefault_some, Catalog.ofJson?_toJson,
    Settings.ofJson?_toJson, List.lookup_cons]

end Configuration

end DashQuery
