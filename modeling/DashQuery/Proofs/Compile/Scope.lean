import DashQuery.Proofs.Compile.Steps

/-!
# The scope of a query

What `Query.scope` holds when it succeeds.  Columns are added table by table and
none is taken away; renamings are added last, and only for bare columns of the
source table that share their name with a column of a joined table.

## Key results

- `Query.scope_eq_ok_iff`: the tables that were checked, in order
- `contains_addJoins_iff`: the legal names after all joins
- `Query.resolve_eq`: a name is written as it is or with the source table in front
- `Query.contains_resolve`: a legal name is written as a legal name
-/

namespace DashQuery

/-! ## Valid names -/

/-- Two valid names with a dot between them are a valid name. -/
theorem Name.isValid_qualified {qualifier name : String} (hq : Name.isValid qualifier = true)
    (hn : Name.isValid name = true) : Name.isValid (Scope.qualified qualifier name) = true := by
  rw [Name.isValid_iff] at hq hn ⊢
  refine ⟨by simp [Scope.qualified], ?_⟩
  intro c hc
  simp only [Scope.qualified, String.toList_append, List.mem_append] at hc
  -- a character of the qualifier, the dot, or one of the name
  rcases hc with (hc | hc) | hc
  · exact hq.2 c hc
  · rw [List.mem_singleton.mp hc]
    decide
  · exact hn.2 c hc

namespace Scope

/-! ## Adding the columns of a table -/

/-- An insertion makes one name legal and keeps the others. -/
theorem contains_insert_iff {scope : Scope} {name other : String} {kind : ColumnKind} :
    (scope.insert name kind).contains other = true ↔
      other = name ∨ scope.contains other = true := by
  unfold contains
  rw [kind?_insert]
  by_cases h : other = name
  · simp [h]
  · simp [h]

/-- Columns rename nothing, however their names are spelled. -/
theorem renamings_foldl_insert (spell : Column → String) (scope : Scope) (columns : List Column) :
    (columns.foldl (fun scope c => scope.insert (spell c) c.kind) scope).renamings =
      scope.renamings := by
  induction columns generalizing scope with
  | nil => rfl
  | cons c cs ih => exact ih (scope.insert (spell c) c.kind)

/-- Columns make their names legal in the spelling in which they are added. -/
theorem contains_foldl_insert_iff {spell : Column → String} {scope : Scope}
    {columns : List Column} {name : String} :
    (columns.foldl (fun scope c => scope.insert (spell c) c.kind) scope).contains name = true ↔
      (∃ c ∈ columns, name = spell c) ∨ scope.contains name = true := by
  induction columns generalizing scope with
  | nil => simp
  | cons c cs ih =>
    rw [List.foldl_cons, ih, contains_insert_iff]
    simp only [List.mem_cons, exists_eq_or_imp]
    rw [or_left_comm, ← or_assoc]

/-- The columns of the source rename nothing. -/
theorem renamings_addBare (scope : Scope) (columns : List Column) :
    (scope.addBare columns).renamings = scope.renamings :=
  renamings_foldl_insert Column.name scope columns

/-- The columns of a joined table rename nothing. -/
theorem renamings_addQualified (scope : Scope) (qualifier : String) (columns : List Column) :
    (scope.addQualified qualifier columns).renamings = scope.renamings :=
  renamings_foldl_insert (fun c => qualified qualifier c.name) scope columns

/-- A joined table adds its columns in qualified form. -/
theorem contains_addQualified_iff {scope : Scope} {qualifier : String} {columns : List Column}
    {name : String} :
    (scope.addQualified qualifier columns).contains name = true ↔
      (∃ c ∈ columns, name = qualified qualifier c.name) ∨ scope.contains name = true :=
  contains_foldl_insert_iff

end Scope

namespace TableScope

/-! ## Adding joined tables -/

/-- A join is added if its table is registered, its names are valid and its qualifier is new. -/
theorem addJoin_eq_ok_iff {catalog : Catalog} {known next : TableScope} {join : Join} :
    known.addJoin catalog join = .ok next ↔
      ∃ columns, catalog.table? join.table = some columns ∧ Name.isValid join.table = true ∧
        (∀ n ∈ join.aliasName, Name.isValid n = true) ∧ join.qualifier ∉ known.qualifiers ∧
        next = ⟨join.qualifier :: known.qualifiers,
          known.scope.addQualified join.qualifier columns,
          columns.map Column.name ++ known.joinedColumns⟩ := by
  unfold addJoin
  cases ht : catalog.table? join.table with
  | none => simp
  | some columns =>
    simp only [unit_bind_eq_ok_iff, Name.check_eq_ok_iff, Name.checkOptional_eq_ok_iff,
      List.contains_iff_mem, Option.some.injEq, exists_eq_left']
    -- a qualifier that is taken is the last thing refused
    by_cases hq : join.qualifier ∈ known.qualifiers
    · simp [hq]
    · simp only [hq, if_false, not_false_eq_true, true_and, pure_eq_ok_iff]

/-- Joins are added one after another. -/
theorem addJoins_cons_eq_ok_iff {catalog : Catalog} {known final : TableScope} {join : Join}
    {joins : List Join} :
    known.addJoins catalog (join :: joins) = .ok final ↔
      ∃ next, known.addJoin catalog join = .ok next ∧ next.addJoins catalog joins = .ok final := by
  rw [addJoins, bind_eq_ok_iff]

/-- Every joined table is registered, and its name and alias are valid. -/
theorem joins_checked {catalog : Catalog} {known final : TableScope} {joins : List Join}
    (h : known.addJoins catalog joins = .ok final) :
    ∀ join ∈ joins, (∃ columns, catalog.table? join.table = some columns) ∧
      Name.isValid join.table = true ∧ ∀ n ∈ join.aliasName, Name.isValid n = true := by
  induction joins generalizing known with
  | nil =>
    intro j hj
    cases hj
  | cons join joins ih =>
    obtain ⟨next, hnext, hrest⟩ := addJoins_cons_eq_ok_iff.mp h
    obtain ⟨columns, ht, hv, ha, -, -⟩ := addJoin_eq_ok_iff.mp hnext
    intro j hj
    -- the first join has passed its own checks, the others pass theirs behind it
    rcases List.mem_cons.mp hj with rfl | hj
    · exact ⟨⟨columns, ht⟩, hv, ha⟩
    · exact ih hrest j hj

/-- Joins add no renaming. -/
theorem renamings_addJoins {catalog : Catalog} {known final : TableScope} {joins : List Join}
    (h : known.addJoins catalog joins = .ok final) :
    final.scope.renamings = known.scope.renamings := by
  induction joins generalizing known with
  | nil => rw [Except.ok.inj h]
  | cons join joins ih =>
    obtain ⟨next, hnext, hrest⟩ := addJoins_cons_eq_ok_iff.mp h
    obtain ⟨columns, -, -, -, -, rfl⟩ := addJoin_eq_ok_iff.mp hnext
    rw [ih hrest, Scope.renamings_addQualified]

/-- The legal names after some joins: those before, and the joined tables' columns under the
names by which the joins go. -/
theorem contains_addJoins_iff {catalog : Catalog} {known final : TableScope} {joins : List Join}
    (h : known.addJoins catalog joins = .ok final) {name : String} :
    final.scope.contains name = true ↔
      known.scope.contains name = true ∨ ∃ join ∈ joins, ∃ columns,
        catalog.table? join.table = some columns ∧
          ∃ c ∈ columns, name = Scope.qualified join.qualifier c.name := by
  induction joins generalizing known with
  | nil =>
    rw [Except.ok.inj h]
    simp
  | cons join joins ih =>
    obtain ⟨next, hnext, hrest⟩ := addJoins_cons_eq_ok_iff.mp h
    obtain ⟨columns, ht, -, -, -, rfl⟩ := addJoin_eq_ok_iff.mp hnext
    -- the later joins keep what this one adds, so it comes in front of theirs
    rw [ih hrest, Scope.contains_addQualified_iff]
    simp only [List.mem_cons, exists_eq_or_imp, ht, Option.some.injEq, exists_eq_left']
    rw [or_assoc, or_left_comm]

/-! ## Renaming shared columns -/

/-- Renaming keeps what is legal. -/
theorem contains_resolved (known : TableScope) (source : String) (columns : List Column)
    (name : String) :
    (known.resolved source columns).contains name = known.scope.contains name := by
  unfold resolved
  -- the columns of joined tables stay as they are while the scope changes
  generalize known.scope = scope
  induction columns generalizing scope with
  | nil => rfl
  | cons c cs ih =>
    rw [List.foldl_cons, ih]
    split
    · rw [Scope.contains, Scope.kind?_qualify, Scope.contains]
    · rfl

/-- A column of the source table is renamed exactly if a joined table has one of its name. -/
theorem resolve_resolved (known : TableScope) (source : String) (columns : List Column)
    (name : String) :
    (known.resolved source columns).resolve name =
      if (∃ c ∈ columns, c.name = name) ∧ name ∈ known.joinedColumns then
        Scope.qualified source name
      else known.scope.resolve name := by
  unfold resolved
  generalize known.scope = scope
  induction columns generalizing scope with
  | nil => simp
  | cons c cs ih =>
    rw [List.foldl_cons, ih]
    simp only [List.mem_cons, exists_eq_or_imp]
    -- a later column of that name, or else the one at hand
    by_cases hrest : (∃ c ∈ cs, c.name = name) ∧ name ∈ known.joinedColumns
    · rw [if_pos hrest, if_pos ⟨.inr hrest.1, hrest.2⟩]
    · rw [if_neg hrest]
      by_cases hc : c.name = name
      · -- the column at hand decides, for no later one of its name is renamed
        subst hc
        by_cases hj : c.name ∈ known.joinedColumns
        · rw [if_pos (List.contains_iff_mem.mpr hj), Scope.resolve_qualify, if_pos rfl,
            if_pos ⟨.inl rfl, hj⟩]
        · rw [if_neg (by simpa using hj), if_neg fun h => hj h.2]
      · -- the column at hand has another name
        have hother : ¬((c.name = name ∨ ∃ c ∈ cs, c.name = name) ∧ name ∈ known.joinedColumns) :=
          fun h => hrest ⟨h.1.resolve_left hc, h.2⟩
        rw [if_neg hother]
        split
        · rw [Scope.resolve_qualify, if_neg (Ne.symm hc)]
        · rfl

end TableScope

namespace Query

/-- The columns of the source table, bare and qualified. -/
def sourceScope (q : Query) (columns : List Column) : TableScope :=
  ⟨[q.sourceTable], (Scope.empty.addBare columns).addQualified q.sourceTable columns, []⟩

/-- The tables of a query are checked in order: its source, then its joins. -/
theorem scope_eq_ok_iff {catalog : Catalog} {q : Query} {scope : Scope} :
    q.scope catalog = .ok scope ↔
      ∃ columns known, catalog.table? q.sourceTable = some columns ∧
        Name.isValid q.sourceTable = true ∧
        (q.sourceScope columns).addJoins catalog q.joins = .ok known ∧
        scope = known.resolved q.sourceTable columns := by
  unfold Query.scope
  -- a source that is not registered has no scope
  cases ht : catalog.table? q.sourceTable with
  | none => simp
  | some columns =>
    simp only [bind_eq_ok_iff, Unique.exists_iff, PUnit.default_eq_unit, Name.check_eq_ok_iff,
      pure_eq_ok_iff, Option.some.injEq]
    constructor
    · rintro ⟨hv, known, hknown, rfl⟩
      exact ⟨columns, known, rfl, hv, hknown, rfl⟩
    · rintro ⟨_, known, rfl, hv, hknown, rfl⟩
      exact ⟨hv, known, hknown, rfl⟩

variable {catalog : Catalog} {q : Query} {scope : Scope}

/-- Before columns are renamed, every name is written as it is. -/
theorem renamings_addJoins_sourceScope {columns : List Column} {known : TableScope}
    {joins : List Join} (h : (q.sourceScope columns).addJoins catalog joins = .ok known) :
    known.scope.renamings = [] := by
  rw [TableScope.renamings_addJoins h, sourceScope, Scope.renamings_addQualified,
    Scope.renamings_addBare]
  rfl

/-- As long as tables are added no name resolves to another. -/
theorem resolve_addJoins_sourceScope {columns : List Column} {known : TableScope}
    {joins : List Join} (h : (q.sourceScope columns).addJoins catalog joins = .ok known)
    (name : String) : known.scope.resolve name = name := by
  rw [Scope.resolve, renamings_addJoins_sourceScope h]
  rfl

/-- The source table is registered under a valid name. -/
theorem source_checked (h : q.scope catalog = .ok scope) :
    (∃ columns, catalog.table? q.sourceTable = some columns) ∧
      Name.isValid q.sourceTable = true := by
  obtain ⟨columns, known, ht, hv, -⟩ := scope_eq_ok_iff.mp h
  exact ⟨⟨columns, ht⟩, hv⟩

/-- Every joined table is registered, and its name and alias are valid. -/
theorem joins_checked (h : q.scope catalog = .ok scope) :
    ∀ join ∈ q.joins, (∃ columns, catalog.table? join.table = some columns) ∧
      Name.isValid join.table = true ∧ ∀ n ∈ join.aliasName, Name.isValid n = true := by
  obtain ⟨columns, known, -, -, hjoins, -⟩ := scope_eq_ok_iff.mp h
  exact TableScope.joins_checked hjoins

/-- A name is written as it is, or it is a column of the source table and is written with the
table in front. -/
theorem resolve_eq (h : q.scope catalog = .ok scope) (name : String) :
    scope.resolve name = name ∨
      (scope.resolve name = Scope.qualified q.sourceTable name ∧
        scope.contains (Scope.qualified q.sourceTable name) = true) := by
  obtain ⟨columns, known, -, -, hjoins, rfl⟩ := scope_eq_ok_iff.mp h
  rw [TableScope.resolve_resolved, TableScope.contains_resolved]
  split
  · next hshared =>
    obtain ⟨⟨c, hc, hname⟩, -⟩ := hshared
    -- the qualified name was added with the source table, and joins take nothing away
    refine .inr ⟨rfl, (TableScope.contains_addJoins_iff hjoins).mpr (.inl ?_)⟩
    exact Scope.contains_addQualified_iff.mpr (.inl ⟨c, hc, by rw [hname]⟩)
  · left
    exact resolve_addJoins_sourceScope hjoins name

/-- A legal name is written as a legal name. -/
theorem contains_resolve (h : q.scope catalog = .ok scope) {name : String}
    (hc : scope.contains name = true) : scope.contains (scope.resolve name) = true := by
  rcases resolve_eq h name with hself | ⟨hq, hlegal⟩
  · rwa [hself]
  · rwa [hq]

/-- A valid name is written as a valid name, for the source table's name is valid. -/
theorem isValid_resolve (h : q.scope catalog = .ok scope) {name : String}
    (hv : Name.isValid name = true) : Name.isValid (scope.resolve name) = true := by
  rcases resolve_eq h name with hself | ⟨hq, -⟩
  · rwa [hself]
  · rw [hq]
    exact Name.isValid_qualified (source_checked h).2 hv

end Query

end DashQuery
