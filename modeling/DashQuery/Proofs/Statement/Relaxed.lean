import DashQuery.Proofs.Filter.Strip
import DashQuery.Proofs.Statement.Binding

/-!
# Settings that let more pass

Settings relax others if they allow deeper and larger filters, or trust expressions that
the others check, and put the same bounds on limits.  They only decide what is refused:
a query that passes under the stricter settings has the same statement under both.

## Key results

- `Expression.checkPlaceholders_of_validate`: a checked expression could as well be trusted
- `FilterGroup.predicate_of_relaxes`: larger bounds keep the predicate
- `Query.compile_of_relaxes`: relaxed settings keep the statement
-/

namespace DashQuery

/-- A policy lets pass what another one does: it is the same, or it trusts what that one checks. -/
def ExpressionPolicy.Relaxes (loose strict : ExpressionPolicy) : Prop :=
  loose = strict ∨ strict = .validated ∧ loose = .trusted

/-- Bounds on filters that are at least as large as others. -/
structure FilterBounds.Relaxes (loose strict : FilterBounds) : Prop where
  maxDepth : strict.maxDepth ≤ loose.maxDepth
  maxConditions : strict.maxConditions ≤ loose.maxConditions

/-- Settings that let pass what others do, with the same bounds on limits. -/
structure Settings.Relaxes (loose strict : Settings) : Prop where
  defaultLimit : loose.defaultLimit = strict.defaultLimit
  maxLimit : loose.maxLimit = strict.maxLimit
  maxFilterDepth : strict.maxFilterDepth ≤ loose.maxFilterDepth
  maxGroupConditions : strict.maxGroupConditions ≤ loose.maxGroupConditions
  expressionPolicy : loose.expressionPolicy.Relaxes strict.expressionPolicy

/-! ## Computed columns -/

/-- An expression that is checked token by token holds no placeholder, for a placeholder is no
legal token. -/
theorem Expression.checkPlaceholders_of_validate {scope : Scope} {aliases : List String}
    {expression : String} (h : validate scope aliases expression = .ok ()) :
    checkPlaceholders expression = .ok () := by
  obtain ⟨-, haccepts⟩ := validate_eq_ok_iff.mp h
  -- an accepted token is legal, and a placeholder is not
  have hnone : (Token.scan expression).any isPlaceholder = false := by
    rw [List.any_eq_false]
    intro t ht hplaceholder
    rw [isPlaceholder, Bool.and_eq_true, beq_iff_eq] at hplaceholder
    exact (haccepts.kind_ne t ht).2.2 hplaceholder.1
  rw [checkPlaceholders, hnone]
  rfl

section expressions

variable {loose strict : ExpressionPolicy} {scope : Scope}

/-- What the stricter policy accepts the looser one accepts. -/
theorem ExpressionPolicy.check_of_relaxes (hrelaxes : loose.Relaxes strict) {aliases : List String}
    {expression : String} (h : strict.check scope aliases expression = .ok ()) :
    loose.check scope aliases expression = .ok () := by
  rcases hrelaxes with rfl | ⟨rfl, rfl⟩
  · exact h
  · exact Expression.checkPlaceholders_of_validate h

/-- The aliases that are declared on the way do not depend on the policy. -/
theorem expressionItems_of_relaxes (hrelaxes : loose.Relaxes strict) {aliases : List String}
    {cs : List ExpressionColumn} {items : List SelectItem}
    (h : expressionItems strict scope aliases cs = .ok items) :
    expressionItems loose scope aliases cs = .ok items := by
  induction cs generalizing aliases items with
  | nil => exact h
  | cons c cs ih =>
    obtain ⟨hvalid, hcheck, rest, hrest, rfl⟩ := expressionItems_cons_eq_ok_iff.mp h
    exact expressionItems_cons_eq_ok_iff.mpr
      ⟨hvalid, ExpressionPolicy.check_of_relaxes hrelaxes hcheck, rest, ih hrest, rfl⟩

/-- Computed columns that pass are written the same under the looser policy. -/
theorem Query.selectItems_of_relaxes (hrelaxes : loose.Relaxes strict) {q : Query}
    {items : List SelectItem} (h : q.selectItems strict scope = .ok items) :
    q.selectItems loose scope = .ok items := by
  obtain ⟨columns, expressions, hcolumns, hexpressions, rfl⟩ := selectItems_eq_ok_iff.mp h
  exact selectItems_eq_ok_iff.mpr ⟨columns, expressions, hcolumns,
    expressionItems_of_relaxes hrelaxes hexpressions, rfl⟩

end expressions

/-! ## Filters -/

section filters

variable {loose strict : FilterBounds} {scope : Scope}

/-- A group within the stricter bounds is within the looser ones. -/
theorem FilterBounds.check_of_relaxes (hrelaxes : loose.Relaxes strict) {depth : Nat}
    {entries : List FilterNode} (h : strict.check depth entries = .ok ()) :
    loose.check depth entries = .ok () := by
  obtain ⟨hdepth, hsize⟩ := check_eq_ok_iff.mp h
  exact check_eq_ok_iff.mpr
    ⟨Nat.le_trans hdepth hrelaxes.maxDepth, Nat.le_trans hsize hrelaxes.maxConditions⟩

namespace FilterNode

mutual

/-- Larger bounds keep the predicate of a node. -/
theorem predicate_of_relaxes (hrelaxes : loose.Relaxes strict) {depth : Nat} :
    ∀ (n : FilterNode) {b : BoundText}, predicate strict scope depth n = .ok b →
      predicate loose scope depth n = .ok b
  | .condition c, b, h => h
  | .group combinator entries, b, h => by
    obtain ⟨hcheck, parts, hparts, rfl⟩ := predicate_group_eq_ok_iff.mp h
    exact predicate_group_eq_ok_iff.mpr ⟨FilterBounds.check_of_relaxes hrelaxes hcheck, parts,
      predicates_of_relaxes hrelaxes entries hparts, rfl⟩

/-- Larger bounds keep the predicates of several nodes. -/
theorem predicates_of_relaxes (hrelaxes : loose.Relaxes strict) {depth : Nat} :
    ∀ (ns : List FilterNode) {bs : List BoundText}, predicates strict scope depth ns = .ok bs →
      predicates loose scope depth ns = .ok bs
  | [], bs, h => h
  | n :: ns, bs, h => by
    obtain ⟨part, parts, hpart, hparts, rfl⟩ := predicates_cons_eq_ok_iff.mp h
    exact predicates_cons_eq_ok_iff.mpr ⟨part, parts, predicate_of_relaxes hrelaxes n hpart,
      predicates_of_relaxes hrelaxes ns hparts, rfl⟩

end

end FilterNode

/-- Larger bounds keep the predicate of a filter. -/
theorem FilterGroup.predicate_of_relaxes (hrelaxes : loose.Relaxes strict) {g : FilterGroup}
    {b : BoundText} (h : g.predicate strict scope = .ok b) :
    g.predicate loose scope = .ok b := by
  obtain ⟨hcheck, parts, hparts, rfl⟩ := predicate_eq_ok_iff.mp h
  exact predicate_eq_ok_iff.mpr ⟨FilterBounds.check_of_relaxes hrelaxes hcheck, parts,
    FilterNode.predicates_of_relaxes hrelaxes g.entries hparts, rfl⟩

/-- A filter that compiles under the stricter bounds compiles to the same under the looser ones. -/
theorem Query.predicate_of_relaxes (hrelaxes : loose.Relaxes strict) {q : Query} {b : BoundText}
    (h : q.predicate strict scope = .ok b) : q.predicate loose scope = .ok b := by
  unfold Query.predicate at h ⊢
  cases hf : q.filters with
  | none => simpa only [hf] using h
  | some filters =>
    simp only [hf] at h
    exact FilterGroup.predicate_of_relaxes hrelaxes h

end filters

/-! ## Whole queries -/

namespace Settings

variable {loose strict : Settings}

/-- Looser settings have looser bounds for filters. -/
theorem Relaxes.filterBounds (h : loose.Relaxes strict) :
    loose.filterBounds.Relaxes strict.filterBounds :=
  ⟨UInt64.le_iff_toNat_le.mp h.maxFilterDepth, UInt64.le_iff_toNat_le.mp h.maxGroupConditions⟩

/-- Looser settings cut off the same rows. -/
theorem Relaxes.effectiveLimit (h : loose.Relaxes strict) (requested : Option UInt64) :
    loose.effectiveLimit requested = strict.effectiveLimit requested := by
  rw [Settings.effectiveLimit, Settings.effectiveLimit, h.defaultLimit, h.maxLimit]

end Settings

namespace Query

/-- A query that compiles does so under relaxed settings, and to the same statement: the settings
decide whether a query is refused, and of a statement only its limit. -/
theorem compile_of_relaxes {loose strict : Settings} {catalog : Catalog} {q : Query}
    {s : SelectStatement} (hrelaxes : loose.Relaxes strict)
    (h : q.compile strict catalog = .ok s) : q.compile loose catalog = .ok s := by
  obtain ⟨scope, hc⟩ := compile_eq_ok_iff.mp h
  -- these three clauses look at the settings, the others at the scope alone
  refine compile_eq_ok_iff.mpr ⟨scope, { hc with items := ?_, predicate := ?_, limit := ?_ }⟩
  · exact selectItems_of_relaxes hrelaxes.expressionPolicy hc.items
  · exact predicate_of_relaxes hrelaxes.filterBounds hc.predicate
  · rw [hrelaxes.effectiveLimit]
    exact hc.limit

/-- A question mark in a literal is no placeholder, so the column passes when it is trusted; the
filters of the sample need all of the stricter bounds. -/
theorem labelledSample_relaxed : ∃ s,
    labelledSample.compile ⟨1000, 10000, 2, 2, .validated⟩ sampleCatalog = .ok s ∧
      labelledSample.compile ⟨1000, 10000, 3, 9, .trusted⟩ sampleCatalog = .ok s := by
  have hrelaxes : Settings.Relaxes ⟨1000, 10000, 3, 9, .trusted⟩
      ⟨1000, 10000, 2, 2, .validated⟩ :=
    ⟨rfl, rfl, by decide, by decide, .inr ⟨rfl, rfl⟩⟩
  -- it compiles under the stricter settings
  have hok : (labelledSample.compile ⟨1000, 10000, 2, 2, .validated⟩ sampleCatalog).isOk =
      true := by decide +kernel
  cases h : labelledSample.compile ⟨1000, 10000, 2, 2, .validated⟩ sampleCatalog with
  | error e =>
    rw [h] at hok
    cases hok
  | ok s => exact ⟨s, rfl, compile_of_relaxes hrelaxes h⟩

end Query

end DashQuery
