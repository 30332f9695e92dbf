import DashQuery.Proofs.Compile.Declared
import DashQuery.Proofs.Filter.Checks
import DashQuery.Proofs.Statement.Names

/-!
# The checks of a query

A query compiles if it passes a list of checks, and else it is refused for the first
check that fails.  `Query.checks` is this list: the tables, the select list, the join
conditions, the filter, the grouping, the sort keys, and the offset.  It is made from
the query alone, so it also holds the checks that come behind a failure.

## Key results

- `Query.scope_eq_columnScope`: the scope is known before the tables are checked
- `Query.failure?_compile`: compiling fails as the checks do
- `Query.compile_first_violation`: when a query compiles, and what it is refused for
-/

namespace DashQuery

/-! ## The scope as it is if the tables pass -/

namespace Query

/-- The columns of the source table that are written behind its name. -/
def sharedColumns (catalog : Catalog) (q : Query) : List Column :=
  (catalog.columnsOf q.sourceTable).filter fun c =>
    q.joins.any fun join => (catalog.columnsOf join.table).any fun d => d.name == c.name

/-- The scope of the declared columns. -/
def columnScope (catalog : Catalog) (q : Query) : Scope where
  kinds := ((q.declared catalog).map DeclaredColumn.entry).reverse
  renamings := ((q.sharedColumns catalog).map fun c =>
    (c.name, Scope.qualified q.sourceTable c.name)).reverse

end Query

namespace TableScope

/-- Each column whose name a joined table has too is renamed, the last one first. -/
theorem renamings_resolved (known : TableScope) (source : String) (columns : List Column) :
    (known.resolved source columns).renamings =
      ((columns.filter fun c => known.joinedColumns.contains c.name).map fun c =>
        (c.name, Scope.qualified source c.name)).reverse ++ known.scope.renamings := by
  unfold resolved
  generalize known.scope = scope
  induction columns generalizing scope with
  | nil => rfl
  | cons c cs ih =>
    rw [List.foldl_cons, ih]
    -- a column that no joined table has is passed over
    by_cases hc : c.name ∈ known.joinedColumns
    · simp [hc, Scope.qualify]
    · simp [hc]

end TableScope

/-- If the tables of a query pass, its scope is that of the declared columns. -/
theorem Query.scope_eq_columnScope {catalog : Catalog} {q : Query} {scope : Scope}
    (h : q.scope catalog = .ok scope) : scope = q.columnScope catalog := by
  have hkinds := kinds_scope h
  obtain ⟨columns, known, ht, -, hjoins, rfl⟩ := scope_eq_ok_iff.mp h
  -- the columns that the run renames are those that a joined table has too
  have hshared : columns.filter (fun c => known.joinedColumns.contains c.name) =
      q.sharedColumns catalog := by
    rw [sharedColumns, Catalog.columnsOf_eq ht]
    refine List.filter_congr fun c _ => ?_
    rw [Bool.eq_iff_iff, List.contains_iff_mem,
      (TableScope.extends_of_addJoins hjoins).mem_joinedColumns]
    simp [sourceScope]
  have hrenamings := known.renamings_resolved q.sourceTable columns
  rw [hshared, renamings_addJoins_sourceScope hjoins, List.append_nil] at hrenamings
  -- kinds and renamings are all there is to a scope
  exact congrArg₂ Scope.mk hkinds hrenamings

/-! ## The checks in order -/

/-- The checks of a joined table; `earlier` are the names under which the tables before it go. -/
def Join.tableChecks (catalog : Catalog) (earlier : List String) (join : Join) : List Check :=
  [Check.require ((catalog.table? join.table).isSome = true) (.invalidJoinTable join.table),
    Name.check join.table] ++ join.aliasName.toList.map Name.check ++
    [Check.require (join.qualifier ∉ earlier) (.invalidJoinTable join.table)]

/-- The checks of joined tables, each behind those before it. -/
def joinTableChecks (catalog : Catalog) (earlier : List String) : List Join → List Check
  | [] => []
  | join :: joins =>
    join.tableChecks catalog earlier ++ joinTableChecks catalog (join.qualifier :: earlier) joins

/-- The checks of the tables of a query: its source, then its joins. -/
def Query.tableChecks (catalog : Catalog) (q : Query) : List Check :=
  [Check.require ((catalog.table? q.sourceTable).isSome = true) (.invalidSourceTable q.sourceTable),
    Name.check q.sourceTable] ++ joinTableChecks catalog [q.sourceTable] q.joins

/-- The checks of a column: its characters, then whether it is legal. -/
def Scope.referenceChecks (scope : Scope) (name : String) : List Check :=
  [Name.check name, scope.check name]

/-- The checks of one side of a join condition, which has to be qualified. -/
def Scope.joinReferenceChecks (scope : Scope) (name : String) : List Check :=
  [Name.check name, Check.require ((Name.split? name).isSome = true) (.unknownColumn name),
    scope.check name]

/-- The checks of a selected column: the column, whether its function can be applied, and its
alias, also if that is synthesised. -/
def ColumnSelection.checks (scope : Scope) (c : ColumnSelection) : List Check :=
  scope.referenceChecks c.column ++
    (c.aggregate.toList.map fun function => function.check scope c.column) ++
    c.outputAlias?.toList.map Name.check

/-- The checks of computed columns; `aliases` are those declared before them. -/
def expressionChecks (policy : ExpressionPolicy) (scope : Scope) (aliases : List String) :
    List ExpressionColumn → List Check
  | [] => []
  | c :: cs =>
    Name.check c.aliasName :: policy.check scope aliases c.expression ::
      expressionChecks policy scope (c.aliasName :: aliases) cs

/-- The checks of a join condition. -/
def Join.conditionChecks (scope : Scope) (join : Join) : List Check :=
  scope.joinReferenceChecks join.left ++ scope.joinReferenceChecks join.right

/-- The checks of a sort key: its direction, its characters, and whether it is an alias or a legal
column. -/
def SortKey.checks (scope : Scope) (aliases : List String) (k : SortKey) : List Check :=
  [Check.require (k.direction = "ASC" ∨ k.direction = "DESC") (.invalidSortDirection k.direction),
    Name.check k.column,
    Check.require (k.column ∈ aliases ∨ scope.contains k.column = true) (.unknownColumn k.column)]

/-- An offset has to fit a signed 64-bit integer. -/
def offsetCheck (n : UInt64) : Check :=
  Check.require (n.toNat ≤ maxOffset) (.invalidOffset n.toNat maxOffset)

namespace Query

/-- The checks of a query that come behind those of its tables. -/
def clauseChecks (settings : Settings) (scope : Scope) (q : Query) : List Check :=
  q.columns.flatMap (ColumnSelection.checks scope) ++
  expressionChecks settings.expressionPolicy scope
    (q.columns.filterMap ColumnSelection.outputAlias?) q.expressionColumns ++
  q.joins.flatMap (Join.conditionChecks scope) ++
  q.filters.toList.flatMap (fun f => f.toGroup.checks settings.filterBounds scope) ++
  q.groupBy.flatMap scope.referenceChecks ++
  q.orderBy.flatMap (SortKey.checks scope q.selectAliases) ++
  q.offset.toList.map offsetCheck

/-- The checks of a query. -/
def checks (settings : Settings) (catalog : Catalog) (q : Query) : List Check :=
  q.tableChecks catalog ++ q.clauseChecks settings (q.columnScope catalog)

end Query

/-! ## Each step fails as its checks do -/

/-- A name that may be missing fails as its check does, if it is there. -/
theorem Name.failure?_checkOptional (name : Option String) :
    failure? (Name.checkOptional name) = firstViolation (name.toList.map Name.check) := by
  cases name with
  | none => rfl
  | some n => simp [Name.checkOptional]

namespace TableScope

variable (catalog : Catalog) (known : TableScope)

/-- Adding a joined table fails as the checks of that table do. -/
theorem failure?_addJoin (join : Join) :
    failure? (known.addJoin catalog join) =
      firstViolation (join.tableChecks catalog known.qualifiers) := by
  unfold addJoin Join.tableChecks
  cases catalog.table? join.table with
  -- a table that is not registered fails the first check
  | none => simp
  | some columns =>
    -- a registered one may fail the last, if its name is taken
    by_cases hknown : join.qualifier ∈ known.qualifiers
    · simp [failure?_check_bind, Name.failure?_checkOptional, hknown]
    · simp [failure?_check_bind, Name.failure?_checkOptional, hknown]

/-- Joined tables fail as their checks do. -/
theorem failure?_addJoins (joins : List Join) :
    failure? (known.addJoins catalog joins) =
      firstViolation (joinTableChecks catalog known.qualifiers joins) := by
  induction joins generalizing known with
  | nil => rfl
  | cons join joins ih =>
    rw [addJoins, joinTableChecks, firstViolation_append]
    refine failure?_bind (known.failure?_addJoin catalog join) fun next hnext => ?_
    -- later joins see the name of this one, and nothing else of it matters to their checks
    obtain ⟨columns, -, -, -, -, rfl⟩ := addJoin_eq_ok_iff.mp hnext
    exact ih _

end TableScope

/-- The tables of a query fail as their checks do. -/
theorem Query.failure?_scope (catalog : Catalog) (q : Query) :
    failure? (q.scope catalog) = firstViolation (q.tableChecks catalog) := by
  unfold Query.scope Query.tableChecks
  cases catalog.table? q.sourceTable with
  | none => simp
  | some columns => simp [failure?_check_bind, TableScope.failure?_addJoins]

namespace Scope

variable (scope : Scope) (name : String)

/-- A reference fails as its checks do. -/
theorem failure?_reference :
    failure? (scope.reference name) = firstViolation (scope.referenceChecks name) := by
  simp [reference, referenceChecks, failure?_check_bind]

/-- A side of a join condition fails as its checks do. -/
theorem failure?_joinReference :
    failure? (scope.joinReference name) = firstViolation (scope.joinReferenceChecks name) := by
  unfold joinReference joinReferenceChecks
  rw [failure?_check_bind]
  cases Name.split? name with
  | none => simp
  | some parts =>
    -- the name is checked a second time, which finds nothing new
    cases hname : Name.check name with
    | error e => rfl
    | ok _ => simp [failure?_reference, referenceChecks, hname]

end Scope

/-- A selected column fails as its checks do. -/
theorem ColumnSelection.failure?_item (scope : Scope) (c : ColumnSelection) :
    failure? (c.item scope) = firstViolation (c.checks scope) := by
  unfold item checks outputAlias?
  cases c.aggregate with
  | none =>
    simp only [Option.toList_none, List.map_nil, List.append_nil, firstViolation_append]
    -- without a function only an alias is checked behind the column
    refine failure?_bind (scope.failure?_reference c.column) fun ref _ => ?_
    rw [failure?_check_bind, Name.failure?_checkOptional, failure?_pure, Option.or_none]
  | some function =>
    simp only [Option.toList_some, List.map_cons, List.map_nil, List.append_assoc,
      firstViolation_append]
    -- with one, the function and then the alias, given or not
    refine failure?_bind (scope.failure?_reference c.column) fun ref _ => ?_
    simp [failure?_check_bind]

/-- A list of steps fails as the checks of its members do, one member after the other. -/
theorem failure?_mapM_flatMap {α β : Type} {step : α → Except QueryError β}
    {checks : α → List Check} (h : ∀ x, failure? (step x) = firstViolation (checks x))
    (xs : List α) : failure? (xs.mapM step) = firstViolation (xs.flatMap checks) := by
  rw [failure?_mapM, firstViolation_flatMap]
  simp only [h]

/-- Computed columns fail as their checks do, each with the aliases before it. -/
theorem failure?_expressionItems (policy : ExpressionPolicy) (scope : Scope)
    (aliases : List String) (cs : List ExpressionColumn) :
    failure? (expressionItems policy scope aliases cs) =
      firstViolation (expressionChecks policy scope aliases cs) := by
  induction cs generalizing aliases with
  | nil => rfl
  | cons c cs ih =>
    rw [expressionItems, failure?_check_bind, failure?_check_bind, bind_pure_comp, failure?_map, ih,
      expressionChecks, firstViolation_cons, firstViolation_cons]

/-- A join condition fails as the checks of its two sides do. -/
theorem Join.failure?_clause (scope : Scope) (join : Join) :
    failure? (join.clause scope) = firstViolation (join.conditionChecks scope) := by
  rw [conditionChecks, firstViolation_append]
  refine failure?_bind (scope.failure?_joinReference join.left) fun left _ => ?_
  rw [bind_pure_comp, failure?_map, Scope.failure?_joinReference]

/-- A sort key that is no alias is checked like any other column. -/
theorem SortKey.failure?_term (scope : Scope) (aliases : List String) (k : SortKey) :
    failure? (k.term scope aliases) = firstViolation (k.checks scope aliases) := by
  have hdirection : failure? (SortDirection.parse k.direction) = failure?
      (Check.require (k.direction = "ASC" ∨ k.direction = "DESC")
        (.invalidSortDirection k.direction)) := by
    unfold SortDirection.parse
    by_cases hasc : k.direction = "ASC"
    · -- the two directions that there are
      simp [hasc]
    · by_cases hdesc : k.direction = "DESC"
      · simp [hdesc]
      · -- any other text is refused
        simp [hasc, hdesc]
  rw [checks, firstViolation_cons]
  refine failure?_bind hdirection fun direction _ => ?_
  rw [failure?_check_bind]
  cases hname : Name.check k.column with
  | error e => simp
  | ok _ =>
    -- an alias comes first; any other name has to pass as a reference, its characters once more
    by_cases hmem : k.column ∈ aliases
    · simp [hmem]
    · by_cases hlegal : scope.contains k.column = true
      · simp [hname, hmem, hlegal, Scope.failure?_reference, Scope.referenceChecks, Scope.check]
      · simp [hname, hmem, hlegal, Scope.failure?_reference, Scope.referenceChecks, Scope.check]

/-- An offset fails as its check does, if there is one. -/
theorem failure?_checkOffset (offset : Option UInt64) :
    failure? (checkOffset offset) = firstViolation (offset.toList.map offsetCheck) := by
  unfold checkOffset
  cases offset with
  | none => rfl
  | some n =>
    -- the bound itself is still allowed
    by_cases hn : n.toNat ≤ maxOffset
    · simp [offsetCheck, hn, Nat.not_lt.mpr hn]
    · simp [offsetCheck, hn, Nat.not_le.mp hn]

namespace Query

variable (settings : Settings) (catalog : Catalog) (q : Query)

/-- The filter of a query fails as the checks of its group do, if there is one. -/
theorem failure?_predicate (bounds : FilterBounds) (scope : Scope) :
    failure? (q.predicate bounds scope) =
      firstViolation (q.filters.toList.flatMap fun f => f.toGroup.checks bounds scope) := by
  unfold Query.predicate
  cases q.filters with
  | none => rfl
  | some filters => simp [FilterGroup.failure?_predicate]

/-- The select list fails as the checks of the selected columns do, and then of the computed ones.
-/
theorem failure?_selectItems (policy : ExpressionPolicy) (scope : Scope) :
    failure? (q.selectItems policy scope) =
      firstViolation (q.columns.flatMap (ColumnSelection.checks scope) ++
        expressionChecks policy scope (q.columns.filterMap ColumnSelection.outputAlias?)
          q.expressionColumns) := by
  have hcolumns : failure? (columnItems scope q.columns) =
      firstViolation (q.columns.flatMap (ColumnSelection.checks scope)) := by
    rw [columnItems_eq_mapM, failure?_mapM_flatMap (ColumnSelection.failure?_item scope)]
  rw [firstViolation_append]
  -- the computed columns see the aliases of the selected ones
  refine failure?_bind hcolumns fun columns hc => ?_
  rw [bind_pure_comp, failure?_map, failure?_expressionItems, declaredAliases_columnItems hc]

/-- Compiling a query fails as its checks do. -/
theorem failure?_compile :
    failure? (q.compile settings catalog) = firstViolation (q.checks settings catalog) := by
  unfold compile checks
  rw [firstViolation_append]
  -- the tables come first, and give the scope of all other checks
  refine failure?_bind (q.failure?_scope catalog) fun scope hscope => ?_
  rw [← scope_eq_columnScope hscope]
  -- the select list is one step of two groups of checks
  simp only [clauseChecks, firstViolation_append, Option.or_assoc]
  rw [← Option.or_assoc, ← firstViolation_append]
  refine failure?_bind (q.failure?_selectItems _ scope) fun items hitems => ?_
  -- behind the select list only its aliases matter, and they are known from the query
  rw [selectAliases_eq hitems]
  refine failure?_bind ?_ fun joins _ => failure?_bind (q.failure?_predicate _ scope)
    fun predicate _ => failure?_bind ?_ fun groupBy _ => failure?_bind ?_ fun orderBy _ => ?_
  · -- the join conditions
    rw [joinClauses_eq_mapM, failure?_mapM_flatMap (Join.failure?_clause scope)]
  · -- the grouping
    rw [references_eq_mapM, failure?_mapM_flatMap scope.failure?_reference]
  · -- the sort keys
    rw [sortTerms_eq_mapM, failure?_mapM_flatMap (SortKey.failure?_term scope q.selectAliases)]
  · -- the offset
    rw [bind_pure_comp, failure?_map, failure?_checkOffset]

end Query

/-! ## What the checks say -/

/-- The checks of a joined table find fault with the query only. -/
theorem Join.tableChecks_refuse (catalog : Catalog) (earlier : List String) (join : Join) :
    ∀ check ∈ join.tableChecks catalog earlier, check.Refuses := by
  simp only [tableChecks, List.forall_mem_append, List.forall_mem_cons, List.forall_mem_map]
  exact ⟨⟨⟨Check.refuses_require rfl, Name.check_refuses _, List.forall_mem_nil _⟩,
    fun name _ => Name.check_refuses name⟩, Check.refuses_require rfl, List.forall_mem_nil _⟩

/-- So do those of all joined tables. -/
theorem joinTableChecks_refuse (catalog : Catalog) (earlier : List String) (joins : List Join) :
    ∀ check ∈ joinTableChecks catalog earlier joins, check.Refuses := by
  induction joins generalizing earlier with
  | nil => exact List.forall_mem_nil _
  | cons join joins ih =>
    exact List.forall_mem_append.mpr ⟨join.tableChecks_refuse catalog earlier, ih _⟩

/-- So do those of a column. -/
theorem Scope.referenceChecks_refuse (scope : Scope) (name : String) :
    ∀ check ∈ scope.referenceChecks name, check.Refuses := by
  simp only [referenceChecks, List.forall_mem_cons]
  exact ⟨Name.check_refuses name, scope.check_refuses name, List.forall_mem_nil _⟩

/-- So do those of a side of a join condition. -/
theorem Scope.joinReferenceChecks_refuse (scope : Scope) (name : String) :
    ∀ check ∈ scope.joinReferenceChecks name, check.Refuses := by
  simp only [joinReferenceChecks, List.forall_mem_cons]
  exact ⟨Name.check_refuses name, Check.refuses_require rfl, scope.check_refuses name,
    List.forall_mem_nil _⟩

/-- So does the check whether a function can be applied. -/
theorem Aggregate.check_refuses (function : Aggregate) (scope : Scope) (column : String) :
    Check.Refuses (function.check scope column) := by
  unfold Aggregate.check
  split
  · exact Check.refuses_error_iff.mpr rfl
  · exact Check.refuses_ok

/-- So do those of a selected column. -/
theorem ColumnSelection.checks_refuse (scope : Scope) (c : ColumnSelection) :
    ∀ check ∈ c.checks scope, check.Refuses := by
  simp only [checks, List.forall_mem_append, List.forall_mem_map]
  exact ⟨⟨scope.referenceChecks_refuse c.column, fun function _ => function.check_refuses scope _⟩,
    fun name _ => Name.check_refuses name⟩

/-- So does the search for placeholders in an expression. -/
theorem Expression.checkPlaceholders_refuses (expression : String) :
    Check.Refuses (checkPlaceholders expression) := by
  unfold checkPlaceholders
  split
  · exact Check.refuses_error_iff.mpr rfl
  · exact Check.refuses_ok

/-- So does the check of an expression that is not trusted. -/
theorem Expression.validate_refuses (scope : Scope) (aliases : List String) (expression : String) :
    Check.Refuses (validate scope aliases expression) := by
  unfold validate
  cases Token.scan expression with
  -- an expression of no tokens is refused by itself
  | nil => exact Check.refuses_error_iff.mpr rfl
  | cons t ts =>
    dsimp only
    cases checkTokens scope aliases 0 (t :: ts) with
    | ok _ => exact Check.refuses_ok
    | error token => exact Check.refuses_error_iff.mpr rfl

/-- So does the check of an expression under either policy. -/
theorem ExpressionPolicy.check_refuses (policy : ExpressionPolicy) (scope : Scope)
    (aliases : List String) (expression : String) :
    Check.Refuses (policy.check scope aliases expression) := by
  cases policy with
  | trusted => exact Expression.checkPlaceholders_refuses expression
  | validated => exact Expression.validate_refuses scope aliases expression

/-- So do those of all computed columns. -/
theorem expressionChecks_refuse (policy : ExpressionPolicy) (scope : Scope)
    (aliases : List String) (cs : List ExpressionColumn) :
    ∀ check ∈ expressionChecks policy scope aliases cs, check.Refuses := by
  induction cs generalizing aliases with
  | nil => exact List.forall_mem_nil _
  | cons c cs ih =>
    simp only [expressionChecks, List.forall_mem_cons]
    exact ⟨Name.check_refuses _, policy.check_refuses scope aliases _, ih _⟩

/-- So do those of a sort key. -/
theorem SortKey.checks_refuse (scope : Scope) (aliases : List String) (k : SortKey) :
    ∀ check ∈ k.checks scope aliases, check.Refuses := by
  simp only [checks, List.forall_mem_cons]
  exact ⟨Check.refuses_require rfl, Name.check_refuses _, Check.refuses_require rfl,
    List.forall_mem_nil _⟩

namespace Query

/-- The checks behind those of the tables find fault with the query only, clause by clause. -/
theorem clauseChecks_refuse (settings : Settings) (scope : Scope) (q : Query) :
    ∀ check ∈ q.clauseChecks settings scope, check.Refuses := by
  have hcolumns := Check.refuse_flatMap (ColumnSelection.checks_refuse scope) q.columns
  have hjoins := Check.refuse_flatMap (fun join => List.forall_mem_append.mpr
    ⟨scope.joinReferenceChecks_refuse (Join.left join),
      scope.joinReferenceChecks_refuse (Join.right join)⟩) q.joins
  have hfilters := Check.refuse_flatMap (fun filters =>
    FilterGroup.checks_refuse settings.filterBounds scope (Filters.toGroup filters))
    q.filters.toList
  have hgroupBy := Check.refuse_flatMap scope.referenceChecks_refuse q.groupBy
  have horderBy := Check.refuse_flatMap (SortKey.checks_refuse scope q.selectAliases) q.orderBy
  have hoffset : ∀ check ∈ q.offset.toList.map offsetCheck, check.Refuses :=
    List.forall_mem_map.mpr fun n _ => Check.refuses_require rfl
  simp only [clauseChecks, List.forall_mem_append]
  exact ⟨⟨⟨⟨⟨⟨hcolumns, expressionChecks_refuse _ _ _ _⟩, hjoins⟩, hfilters⟩, hgroupBy⟩,
    horderBy⟩, hoffset⟩

/-- No check of a query says that a run failed. -/
theorem checks_refuse (settings : Settings) (catalog : Catalog) (q : Query) :
    ∀ check ∈ q.checks settings catalog, check.Refuses := by
  have htables : ∀ check ∈ q.tableChecks catalog, check.Refuses := by
    simp only [tableChecks, List.cons_append, List.nil_append, List.forall_mem_cons]
    exact ⟨Check.refuses_require rfl, Name.check_refuses _, joinTableChecks_refuse _ _ _⟩
  exact List.forall_mem_append.mpr ⟨htables, q.clauseChecks_refuse settings _⟩

/-- A query compiles exactly if it passes all its checks.  Otherwise it is refused, and for the
first check that fails: those before it pass, whatever is wrong behind it.  Every refusal, and
everything the checks could say, is the caller's fault. -/
theorem compile_first_violation (settings : Settings) (catalog : Catalog) (q : Query) :
    ((∃ s, q.compile settings catalog = .ok s) ↔
      ∀ check ∈ q.checks settings catalog, check = .ok ()) ∧
    (∀ e, q.compile settings catalog = .error e ↔ ∃ before after,
      q.checks settings catalog = before ++ .error e :: after ∧
        ∀ check ∈ before, check = .ok ()) ∧
    ∀ e, .error e ∈ q.checks settings catalog →
      e.status = 400 ∧ e.isValidation = true ∧ ∀ cause, e ≠ .executionFailed cause := by
  refine ⟨?_, fun e => ?_, fun e he => ?_⟩
  · -- there is a statement if nothing fails, and nothing fails if every check passes
    rw [← failure?_eq_none_iff, failure?_compile, firstViolation_eq_none_iff]
  · -- the error is the first violation
    rw [← failure?_eq_some_iff, failure?_compile, firstViolation_eq_some_iff]
  · -- whatever a check says is the caller's fault, and no failed run is
    have hvalid := Check.refuses_error_iff.mp (checks_refuse settings catalog q _ he)
    refine ⟨by simpa [QueryError.isValidation] using hvalid, hvalid, fun cause heq => ?_⟩
    subst heq
    cases hvalid

/-- A query with three mistakes: a sum over text, and a sort key in no direction over no column. -/
def mistakenSample : Query where
  sourceTable := "orders"
  columns := [⟨"id", none, none⟩, ⟨"city", none, some .sum⟩]
  expressionColumns := []
  joins := []
  filters := none
  groupBy := []
  orderBy := [⟨"nowhere", "down"⟩]
  limit := none
  offset := none

/-- Of the three mistakes the first one is reported, and the second is in the list behind it. -/
theorem mistakenSample_refused :
    mistakenSample.compile Settings.default crossedCatalog =
        .error (.nonAggregatableColumn "city" "SUM") ∧
      .error (.invalidSortDirection "down") ∈
        mistakenSample.checks Settings.default crossedCatalog ∧
      (QueryError.invalidSortDirection "down").status = 400 := by
  -- four checks of the tables and columns pass before the first mistake
  have hchecks : mistakenSample.checks Settings.default crossedCatalog =
      [.ok (), .ok (), .ok (), .ok (), .ok (), .ok (),
        .error (.nonAggregatableColumn "city" "SUM"), .ok (),
        .error (.invalidSortDirection "down"), .ok (), .error (.unknownColumn "nowhere")] := rfl
  obtain ⟨-, hrefused, hstatus⟩ :=
    compile_first_violation Settings.default crossedCatalog mistakenSample
  have hlater : .error (.invalidSortDirection "down") ∈
      mistakenSample.checks Settings.default crossedCatalog := by simp [hchecks]
  exact ⟨(hrefused _).mpr ⟨List.replicate 6 (.ok ()), _, hchecks, by simp⟩, hlater,
    (hstatus _ hlater).1⟩

end Query

end DashQuery
