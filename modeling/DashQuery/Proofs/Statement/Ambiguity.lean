import DashQuery.Proofs.Statement.References
import DashQuery.Storage.Database

/-!
# Which references are ambiguous

The compiler writes a column of the source table behind the table's name if a joined
table has a column of that name, and refuses two tables that go under one name.  Both
comparisons are exact, while the database takes names that differ only in ASCII case
for the same.  So a statement can be ambiguous only through names that are the same
without regard to case but are spelled differently, or through a name behind a table
that splitting does not take apart.

## Key results

- `Query.bare_reference`: where a name that is written alone comes from
- `Query.CompilesTo.selecting`: any legal column can be selected over the same tables
- `Query.CompilesTo.bareNamesClear_iff`: which tables make names that are written alone ambiguous
- `Query.compile_unqualified`: when the tables and the names written alone are unambiguous
-/

namespace DashQuery

namespace Database

/-- Two names are the same to the database if they are in lowercase. -/
theorem sameName_iff {a b : String} : sameName a b = true ↔ lowercase a = lowercase b := beq_iff_eq

end Database

namespace Query

variable {settings : Settings} {catalog : Catalog} {scope : Scope} {q : Query}
  {s : SelectStatement}

/-- The names of the source table's columns. -/
def sourceColumns (catalog : Catalog) (q : Query) : List String :=
  (catalog.columnsOf q.sourceTable).map Column.name

/-- The names of the joined tables' columns. -/
def joinedColumns (catalog : Catalog) (q : Query) : List String :=
  q.joins.flatMap fun join => (catalog.columnsOf join.table).map Column.name

/-- A name is shared if the source table and a joined one both have it. -/
theorem isShared_iff {name : String} :
    q.IsShared catalog name ↔
      name ∈ q.sourceColumns catalog ∧ name ∈ q.joinedColumns catalog := by
  simp only [IsShared, sourceColumns, joinedColumns, List.mem_map, List.mem_flatMap]

/-- A column behind its table's name that is written as one name, since its name is not split
there. -/
def IsUnsplit (catalog : Catalog) (q : Query) (name : String) : Prop :=
  ∃ d ∈ q.declared catalog, d.qualifier?.isSome = true ∧ d.name = name ∧ ¬d.IsPlain

/-- A column behind its table's name is written with its table, if it is split at all. -/
theorem isUnsplit_of_bare (h : q.scope catalog = .ok scope) {d : DeclaredColumn}
    (hd : d ∈ q.declared catalog) (hq : d.qualifier?.isSome = true) {column : String}
    (hof : ColumnRef.ofName d.name = .bare column) : q.IsUnsplit catalog column := by
  have hname : d.name = column := by rw [← ColumnRef.name_ofName d.name, hof, ColumnRef.name]
  refine ⟨d, hd, hq, hname, fun hplain => ?_⟩
  obtain ⟨qualifier, hsome⟩ := Option.isSome_iff_exists.mp hq
  rw [(DeclaredColumn.ofName_name_eq_iff (declared_qualifier_ne h hd)).mpr hplain,
    DeclaredColumn.ref, hsome] at hof
  cases hof

/-- A name that is written alone is a column of the source table that no joined table has in this
spelling, or a column behind its table's name that could not be split. -/
theorem bare_reference (h : q.scope catalog = .ok scope) {name column : String}
    (href : scope.reference name = .ok (.bare column)) :
    (column ∈ q.sourceColumns catalog ∧ column ∉ q.joinedColumns catalog) ∨
      q.IsUnsplit catalog column := by
  obtain ⟨-, hlegal, hof⟩ := Scope.reference_eq_ok_iff.mp href
  by_cases hshared : q.IsShared catalog name
  · -- the name is written behind the source table's, and that is declared as well
    obtain ⟨c, hc, hcname⟩ := hshared.1
    have hd : ⟨some q.sourceTable, c⟩ ∈ q.declared catalog :=
      mem_declared_iff.mpr (.inl ⟨hc, .inr rfl⟩)
    rw [(resolve_scope h name).1 hshared, ← hcname] at hof
    exact .inr (isUnsplit_of_bare h hd rfl hof.symm)
  · rw [(resolve_scope h name).2 hshared] at hof
    obtain ⟨d, hd, hname⟩ := (contains_scope_iff h).mp hlegal
    rw [← hname] at hof
    -- a column of the source table, the same one qualified, or a joined one
    rcases mem_declared_iff.mp hd with ⟨hc, hq | hq⟩ | ⟨join, -, -, hq⟩
    · have hcolumn : d.name = column := by
        rw [← ColumnRef.name_ofName d.name, ← hof, ColumnRef.name]
      have hself : d.column.name = d.name := by rw [DeclaredColumn.name, hq]
      have hsource : name ∈ q.sourceColumns catalog :=
        List.mem_map.mpr ⟨d.column, hc, hself.trans hname⟩
      rw [← hcolumn, hname]
      exact .inl ⟨hsource, fun hjoined => hshared (isShared_iff.mpr ⟨hsource, hjoined⟩)⟩
    · exact .inr (isUnsplit_of_bare h hd (by rw [hq, Option.isSome_some]) hof.symm)
    · exact .inr (isUnsplit_of_bare h hd (by rw [hq, Option.isSome_some]) hof.symm)

/-- What stands alone in the select list, the predicate, the grouping or the sorting. -/
theorem CompilesTo.bare_reference (h : q.CompilesTo settings catalog scope s) (column : String)
    (href : .bare column ∈ s.rowRefs) :
    (column ∈ q.sourceColumns catalog ∧ column ∉ q.joinedColumns catalog) ∨
      q.IsUnsplit catalog column := by
  obtain ⟨name, hname⟩ := h.references_checked _ (List.mem_append_right _ href)
  exact Query.bare_reference h.scope_eq hname

/-- A name that is written alone is valid. -/
theorem CompilesTo.bare_valid (h : q.CompilesTo settings catalog scope s) {column : String}
    (href : .bare column ∈ s.columnRefs) : Name.isValid column = true := by
  obtain ⟨name, hname⟩ := h.references_checked _ href
  exact (reference_checked h.scope_eq hname column List.mem_cons_self).1

/-- The query for one column over the same tables. -/
def selecting (column : String) (q : Query) : Query :=
  { q with columns := [⟨column, none, none⟩], expressionColumns := [], filters := none,
           groupBy := [], orderBy := [], offset := none }

/-- Any column that can be referred to can be selected over the tables of a query that compiles. -/
theorem CompilesTo.selecting (h : q.CompilesTo settings catalog scope s) {column : String}
    {ref : ColumnRef} (href : scope.reference column = .ok ref) :
    ∃ s', (q.selecting column).compile settings catalog = .ok s' ∧
      s'.items = [.column ref none] := by
  have hitem : ColumnSelection.item scope ⟨column, none, none⟩ = .ok (.column ref none) :=
    (ColumnSelection.item_eq_ok_iff_of_none rfl).mpr ⟨ref, href, nofun, rfl⟩
  -- its select list is that one column
  have hitems : (q.selecting column).selectItems settings.expressionPolicy scope =
      .ok [.column ref none] :=
    selectItems_eq_ok_iff.mpr ⟨[.column ref none], [],
      columnItems_eq_ok_iff.mpr (.cons hitem .nil), rfl, rfl⟩
  exact ⟨⟨[.column ref none], q.sourceTable, s.joins, .empty, [], [],
    settings.effectiveLimit q.limit, none⟩, compile_eq_ok_iff.mpr ⟨scope, h.scope_eq, hitems, rfl,
      h.joins, rfl, rfl, rfl, rfl, rfl⟩, rfl⟩

/-- A plain column of the source table that no joined table has in this spelling is written
alone. -/
theorem reference_eq_bare (h : q.scope catalog = .ok scope) {column : String}
    (hplain : ∀ d ∈ q.declared catalog, d.IsPlain) (hvalid : Name.isValid column = true)
    (hsource : column ∈ q.sourceColumns catalog) (hother : column ∉ q.joinedColumns catalog) :
    scope.reference column = .ok (.bare column) := by
  obtain ⟨c, hc, rfl⟩ := List.mem_map.mp hsource
  have hd : ⟨none, c⟩ ∈ q.declared catalog := mem_declared_iff.mpr (.inl ⟨hc, .inl rfl⟩)
  refine Scope.reference_eq_ok_iff.mpr ⟨hvalid, (contains_scope_iff h).mpr ⟨_, hd, rfl⟩, ?_⟩
  rw [(resolve_scope h c.name).2 fun hshared => hother (isShared_iff.mp hshared).2]
  exact ((DeclaredColumn.ofName_name_eq_iff (declared_qualifier_ne h hd)).mpr (hplain _ hd)).symm

/-- No query over the tables of `q` writes a name alone that is also one of a joined column,
compared without regard to case. -/
def BareNamesClear (settings : Settings) (catalog : Catalog) (q : Query) : Prop :=
  ∀ (other : Query) (s : SelectStatement), other.sourceTable = q.sourceTable →
    other.joins = q.joins → other.compile settings catalog = .ok s →
    ∀ column, .bare column ∈ s.rowRefs → ∀ name ∈ q.joinedColumns catalog,
      Database.sameName column name = false

/-- Bare names are clear exactly if each valid column of the source table that is the same as a
joined one but for case has a namesake of its own spelling among the joined ones. -/
theorem CompilesTo.bareNamesClear_iff (h : q.CompilesTo settings catalog scope s)
    (hplain : ∀ d ∈ q.declared catalog, d.IsPlain) :
    q.BareNamesClear settings catalog ↔
      ∀ column ∈ q.sourceColumns catalog, Name.isValid column = true →
        ∀ name ∈ q.joinedColumns catalog, Database.sameName column name = true →
          column ∈ q.joinedColumns catalog := by
  constructor
  · intro hclear column hsource hvalid name hname hsame
    by_contra hother
    -- the query that selects the column writes it alone
    obtain ⟨s', hs', hitems⟩ :=
      h.selecting (reference_eq_bare h.scope_eq hplain hvalid hsource hother)
    have hmem : .bare column ∈ s'.rowRefs := by
      simp [SelectStatement.rowRefs, SelectStatement.itemRefs, hitems, SelectItem.ref?]
    rw [hclear (q.selecting column) s' rfl rfl hs' column hmem name hname] at hsame
    cases hsame
  · intro hspelled other s' hsource hjoins hs' column href name hname
    obtain ⟨scope', hc⟩ := compile_eq_ok_iff.mp hs'
    -- what is declared depends on the tables alone
    have hsources : other.sourceColumns catalog = q.sourceColumns catalog := by
      rw [sourceColumns, hsource, sourceColumns]
    have hjoined : other.joinedColumns catalog = q.joinedColumns catalog := by
      rw [joinedColumns, hjoins, joinedColumns]
    have hdeclared : other.declared catalog = q.declared catalog := by
      rw [declared, sourceDeclared, hsource, hjoins, declared, sourceDeclared]
    rw [← Bool.not_eq_true]
    intro hsame
    -- a plain name that is written alone is of the source table only
    rcases hc.bare_reference column href with ⟨hmem, hother⟩ | ⟨d, hd, -, -, hsplit⟩
    · have hvalid := hc.bare_valid (List.mem_append_right _ href)
      rw [hsources] at hmem
      rw [hjoined] at hother
      exact hother (hspelled column hmem hvalid name hname hsame)
    · exact hsplit (hplain d (hdeclared ▸ hd))

/-- When the statements over some tables are unambiguous to the database.  The tables go under
distinct names, which are distinct without regard to case exactly if no two of them differ in case
alone.  A name that is written alone is a column of the source table that no joined table has in
this spelling, or a column behind its table's name that could not be split.  If all declared columns
are plain, no query over these tables writes a name alone that is also one of a joined column
exactly if each valid column of the source table that is the same as a joined one but for case has
a namesake of its own spelling there. -/
theorem compile_unqualified (h : q.compile settings catalog = .ok s) :
    q.tableNames.Nodup ∧
    ((q.tableNames.map Database.lowercase).Nodup ↔ ∀ a ∈ q.tableNames, ∀ b ∈ q.tableNames,
      Database.sameName a b = true → a = b) ∧
    (∀ column, .bare column ∈ s.rowRefs →
      (column ∈ q.sourceColumns catalog ∧ column ∉ q.joinedColumns catalog) ∨
        q.IsUnsplit catalog column) ∧
    ((∀ d ∈ q.declared catalog, d.IsPlain) → (q.BareNamesClear settings catalog ↔
      ∀ column ∈ q.sourceColumns catalog, Name.isValid column = true →
        ∀ name ∈ q.joinedColumns catalog, Database.sameName column name = true →
          column ∈ q.joinedColumns catalog)) := by
  obtain ⟨scope, hc⟩ := compile_eq_ok_iff.mp h
  have hnodup := nodup_tableNames hc.scope_eq
  refine ⟨hnodup, ?_, hc.bare_reference, hc.bareNamesClear_iff⟩
  -- distinct names stay distinct in lowercase if they are told apart there
  simp only [Database.sameName_iff]
  exact List.nodup_map_iff_inj_on hnodup

/-- Tables with a column of one name in two spellings. -/
def casedCatalog : Catalog :=
  (Catalog.empty.insert "orders" [⟨"ID", .integer⟩, ⟨"user_id", .integer⟩]).insert "users"
    [⟨"id", .integer⟩]

/-- Joins of the same table under names in two spellings, with a column of the source selected. -/
def casedSample : Query where
  sourceTable := "orders"
  columns := [⟨"ID", none, none⟩]
  expressionColumns := []
  joins := [⟨.left, "users", some "u", "orders.user_id", "u.id"⟩,
    ⟨.left, "users", some "U", "orders.user_id", "U.id"⟩]
  filters := none
  groupBy := []
  orderBy := []
  limit := none
  offset := none

/-- Tables and columns of the first sample differ in case alone; those of the second do not. -/
theorem casedSample_unqualified :
    (∃ s, casedSample.compile Settings.default casedCatalog = .ok s ∧
      casedSample.tableNames.Nodup ∧ ¬(casedSample.tableNames.map Database.lowercase).Nodup ∧
      ¬casedSample.BareNamesClear Settings.default casedCatalog) ∧
    ∃ s, sample.compile Settings.default sampleCatalog = .ok s ∧
      (sample.tableNames.map Database.lowercase).Nodup ∧
      sample.BareNamesClear Settings.default sampleCatalog := by
  constructor
  · have h : ∃ s, casedSample.compile Settings.default casedCatalog = .ok s := ⟨_, rfl⟩
    obtain ⟨s, hs⟩ := h
    obtain ⟨hnodup, htables, -, hcolumns⟩ := compile_unqualified hs
    refine ⟨s, hs, hnodup, ?_, ?_⟩
    · rw [htables]
      decide
    · -- `ID` has a joined namesake in another spelling only
      rw [hcolumns (by decide)]
      intro hspelled
      exact absurd (hspelled "ID" (by decide) (by decide) "id" (by decide) (by decide)) (by decide)
  · have h : ∃ s, sample.compile Settings.default sampleCatalog = .ok s := ⟨_, rfl⟩
    obtain ⟨s, hs⟩ := h
    obtain ⟨-, htables, -, hcolumns⟩ := compile_unqualified hs
    exact ⟨s, hs, htables.mpr (by decide), (hcolumns (by decide)).mpr (by decide)⟩

end Query

end DashQuery
