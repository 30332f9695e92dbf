import DashQuery.Execution
import DashQuery.Filter.Strip

/-! # Facets

The facet of a column lists its distinct values with the number of rows that have
them, for a filter picker.  It counts under every filter of a base query but those
on the column itself, so that the picker shows what else could be chosen.  Each
facet is a query of its own and goes through the compiler like any other.

`Facets.compute` runs the facets of several columns in order and stops at the
first failure. -/

namespace DashQuery

/-- The result name of a facet's values. -/
def valueAlias : String := "value"

/-- The result name of a facet's counts. -/
def countAlias : String := "cnt"

namespace Query

/-- The query that counts the distinct values of `target` under the filters of `base`. -/
def facet (base : Query) (target : String) : Query where
  sourceTable := base.sourceTable
  columns := [⟨target, some valueAlias, none⟩]
  expressionColumns := [⟨"COUNT(*)", countAlias⟩]
  joins := base.joins
  filters := base.filters.map fun filters =>
    .group (filters.toGroup.strip base.sourceTable target)
  groupBy := [target]
  orderBy := [⟨countAlias, "DESC"⟩, ⟨valueAlias, "ASC"⟩]
  limit := none
  offset := none

/-- The statement of a facet. -/
def compileFacet (settings : Settings) (catalog : Catalog) (base : Query) (target : String) :
    Except QueryError SelectStatement :=
  (base.facet target).compile settings catalog

end Query

/-- A value of a facet and how many rows have it. -/
structure FacetValue where
  value : Json
  count : Nat

namespace FacetValue

/-- A count must be a whole number that is not negative. -/
def countOf? : Option Json → Option Nat
  | some (.int n) => if 0 ≤ n then some n.toNat else none
  | _ => none

/-- The facet value of a row; a missing value is null. -/
def ofRow (target : String) (row : Row) : Except QueryError FacetValue :=
  match countOf? (Json.member? countAlias row) with
  | some count => .ok ⟨(Json.member? valueAlias row).getD .null, count⟩
  | none => .error (.executionFailed ("facet row for '" ++ target ++ "' has no count"))

/-- The facet values of rows, in their order. -/
def ofRows (target : String) : List Row → Except QueryError (List FacetValue)
  | [] => .ok []
  | row :: rows => do
    let value ← ofRow target row
    let values ← ofRows target rows
    return value :: values

end FacetValue

/-- Facets by column; each column once. -/
abbrev Facets := List (String × List FacetValue)

namespace Facets

/-- The facet of one column. -/
def computeOne {σ : Type} (settings : Settings) (catalog : Catalog) (backend : Backend σ)
    (base : Query) (target : String) (state : σ) :
    Except QueryError (List FacetValue) × σ :=
  match base.compileFacet settings catalog target with
  | .error e => (.error e, state)
  | .ok s =>
    match backend.execute s state with
    | (.error e, next) => (.error e, next)
    | (.ok rows, next) => (FacetValue.ofRows target rows, next)

/-- Adds the facets of `targets` in order to those that are there; a column's later facet takes
the place of an earlier one. -/
def computeFrom {σ : Type} (settings : Settings) (catalog : Catalog) (backend : Backend σ)
    (base : Query) (facets : Facets) :
    List String → σ → Except QueryError Facets × σ
  | [], state => (.ok facets, state)
  | target :: targets, state =>
    match computeOne settings catalog backend base target state with
    | (.error e, next) => (.error e, next)
    | (.ok values, next) =>
      computeFrom settings catalog backend base (Ordered.put target values facets) targets next

/-- The facets of `targets`, or the first failure. -/
def compute {σ : Type} (settings : Settings) (catalog : Catalog) (backend : Backend σ)
    (base : Query) (targets : List String) (state : σ) : Except QueryError Facets × σ :=
  computeFrom settings catalog backend base [] targets state

end Facets

end DashQuery
