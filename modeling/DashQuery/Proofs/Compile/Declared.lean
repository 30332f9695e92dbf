import DashQuery.Proofs.Compile.Scope
import Mathlib.Data.List.Nodup

/-!
# The columns a query declares

A query declares the columns of its source table, once bare and once behind the
table's name, and the columns of each joined table behind the name under which
the join goes.  Its scope is made of exactly these, in this order.  Names of
tables and columns may hold dots, so columns of several tables can come to one
name; then the column declared last decides its kind.

## Key results

- `TableScope.extends_of_addJoins`: what a run over the joins adds
- `Query.kinds_scope`: a scope holds the declared columns, the last one first
- `Query.ExactScope`, `Query.scope_exact`: what is legal, of which kind, and how it is written
-/

namespace DashQuery

/-- The columns of a table, none if it is not registered. -/
def Catalog.columnsOf (catalog : Catalog) (table : String) : List Column :=
  (catalog.table? table).getD []

/-- The columns of a registered table. -/
theorem Catalog.columnsOf_eq {catalog : Catalog} {table : String} {columns : List Column}
    (h : catalog.table? table = some columns) : catalog.columnsOf table = columns := by
  rw [columnsOf, h, Option.getD_some]

/-- Parts that a dot puts together are found again if no other dot comes before it. -/
theorem Scope.qualified_inj_of_dotless {a b x y : String} (ha : '.' ∉ a.toList)
    (hb : '.' ∉ b.toList) (h : qualified a x = qualified b y) : a = b ∧ x = y := by
  have hlists := congrArg String.toList h
  simp only [qualified, String.toList_append, List.append_assoc] at hlists
  obtain ⟨hqualifier, hname⟩ := append_cons_inj_of_not_mem ha hb hlists
  exact ⟨String.ext hqualifier, String.ext hname⟩

/-- Behind one qualifier, names stay apart. -/
theorem Scope.qualified_inj {qualifier a b : String}
    (h : qualified qualifier a = qualified qualifier b) : a = b := by
  have hlists := congrArg String.toList h
  simp only [qualified, String.toList_append, List.append_cancel_left_eq] at hlists
  exact String.ext hlists

/-- A column of a query's table, and the name under which the table goes if it belongs to the
column's name. -/
structure DeclaredColumn where
  qualifier? : Option String
  column : Column

/-- The name by which a query may refer to the column. -/
def DeclaredColumn.name (d : DeclaredColumn) : String :=
  match d.qualifier? with
  | some qualifier => Scope.qualified qualifier d.column.name
  | none => d.column.name

/-- The entry of the column in a scope. -/
def DeclaredColumn.entry (d : DeclaredColumn) : String × ColumnKind := (d.name, d.column.kind)

/-- The columns of a joined table. -/
def Join.declared (catalog : Catalog) (join : Join) : List DeclaredColumn :=
  (catalog.columnsOf join.table).map (DeclaredColumn.mk (some join.qualifier))

namespace Query

/-- The columns of the source table, bare and behind the table's name. -/
def sourceDeclared (catalog : Catalog) (q : Query) : List DeclaredColumn :=
  (catalog.columnsOf q.sourceTable).map (DeclaredColumn.mk none) ++
    (catalog.columnsOf q.sourceTable).map (DeclaredColumn.mk (some q.sourceTable))

/-- The columns that a query declares, in order: those of its source table, then those of the
joined tables. -/
def declared (catalog : Catalog) (q : Query) : List DeclaredColumn :=
  q.sourceDeclared catalog ++ q.joins.flatMap (Join.declared catalog)

/-- The names under which the tables of a query go. -/
def tableNames (q : Query) : List String := q.sourceTable :: q.joins.map Join.qualifier

/-- The source table and a joined one have a column of this name. -/
def IsShared (catalog : Catalog) (q : Query) (name : String) : Prop :=
  (∃ c ∈ catalog.columnsOf q.sourceTable, c.name = name) ∧
    ∃ join ∈ q.joins, ∃ c ∈ catalog.columnsOf join.table, c.name = name

end Query

/-! ## A run over the joins -/

/-- Columns are put in front of the earlier entries, the last one first. -/
theorem Scope.kinds_foldl_insert (spell : Column → String) (scope : Scope)
    (columns : List Column) :
    (columns.foldl (fun scope c => scope.insert (spell c) c.kind) scope).kinds =
      (columns.map fun c => (spell c, c.kind)).reverse ++ scope.kinds := by
  induction columns generalizing scope with
  | nil => rfl
  | cons c cs ih =>
    rw [List.foldl_cons, ih, List.map_cons, List.reverse_cons, List.append_assoc]
    rfl

namespace TableScope

/-- What is known after some joins, compared with what was known before. -/
structure Extends (catalog : Catalog) (known final : TableScope) (joins : List Join) : Prop where
  qualifiers : final.qualifiers = (joins.map Join.qualifier).reverse ++ known.qualifiers
  /-- No two of the names of tables are the same, if none were before. -/
  nodup : known.qualifiers.Nodup → final.qualifiers.Nodup
  kinds : final.scope.kinds =
    ((joins.flatMap (Join.declared catalog)).map DeclaredColumn.entry).reverse ++ known.scope.kinds
  mem_joinedColumns (name : String) : name ∈ final.joinedColumns ↔
    (∃ join ∈ joins, ∃ c ∈ catalog.columnsOf join.table, c.name = name) ∨
      name ∈ known.joinedColumns

variable {catalog : Catalog} {known next final : TableScope} {join : Join} {joins : List Join}

/-- No joins add nothing. -/
theorem extends_nil : known.Extends catalog known [] where
  qualifiers := rfl
  nodup := id
  kinds := rfl
  mem_joinedColumns := by simp

/-- One join adds its name, its columns behind that name, and the names of its columns. -/
theorem extends_of_addJoin (h : known.addJoin catalog join = .ok next) :
    known.Extends catalog next [join] := by
  obtain ⟨columns, ht, -, -, hfresh, rfl⟩ := addJoin_eq_ok_iff.mp h
  have hcolumns := Catalog.columnsOf_eq ht
  refine ⟨rfl, fun hnodup => List.nodup_cons.mpr ⟨hfresh, hnodup⟩, ?_, fun name => ?_⟩
  · rw [Scope.addQualified, Scope.kinds_foldl_insert, List.flatMap_singleton, Join.declared,
      hcolumns, List.map_map]
    rfl
  · simp [hcolumns]

/-- What two runs add, one behind the other, is what both add. -/
theorem Extends.trans {rest : List Join} (h : known.Extends catalog next joins)
    (h' : next.Extends catalog final rest) : known.Extends catalog final (joins ++ rest) where
  qualifiers := by
    rw [h'.qualifiers, h.qualifiers, List.map_append, List.reverse_append, List.append_assoc]
  nodup hnodup := h'.nodup (h.nodup hnodup)
  kinds := by
    rw [h'.kinds, h.kinds, List.flatMap_append, List.map_append, List.reverse_append,
      List.append_assoc]
  mem_joinedColumns name := by
    -- a joined column comes from one run or from the other
    rw [h'.mem_joinedColumns, h.mem_joinedColumns, ← or_assoc]
    simp only [List.mem_append, or_and_right, exists_or]
    rw [or_comm (a := ∃ join ∈ rest, _)]

/-- A run over the joins adds what each of them adds, in order. -/
theorem extends_of_addJoins (h : known.addJoins catalog joins = .ok final) :
    known.Extends catalog final joins := by
  induction joins generalizing known with
  | nil =>
    rw [← Except.ok.inj h]
    exact extends_nil
  | cons join joins ih =>
    obtain ⟨next, hnext, hrest⟩ := addJoins_cons_eq_ok_iff.mp h
    exact (extends_of_addJoin hnext).trans (ih hrest)

/-- Renaming changes no kind. -/
theorem kinds_resolved (known : TableScope) (source : String) (columns : List Column) :
    (known.resolved source columns).kinds = known.scope.kinds := by
  unfold resolved
  generalize known.scope = scope
  induction columns generalizing scope with
  | nil => rfl
  | cons c cs ih =>
    rw [List.foldl_cons, ih]
    split <;> rfl

end TableScope

/-! ## The scope of a query -/

namespace Query

variable {catalog : Catalog} {q : Query} {scope : Scope}

/-- The newest of some entries is the last one written. -/
theorem lookup_reverse_eq_some_iff {ds : List DeclaredColumn} {name : String}
    {kind : ColumnKind} :
    (ds.map DeclaredColumn.entry).reverse.lookup name = some kind ↔
      ∃ before d after, ds = before ++ d :: after ∧ d.name = name ∧ d.column.kind = kind ∧
        ∀ e ∈ after, e.name ≠ name := by
  rw [← List.map_reverse, List.lookup_eq_some_iff]
  constructor
  · rintro ⟨newer, older, heq, hnewer⟩
    -- the entries are those of the declared columns, so these are split at the same place
    obtain ⟨after, rest, hds, rfl, hrest⟩ := List.map_eq_append_iff.mp heq
    obtain ⟨d, before, rfl, hd, rfl⟩ := List.map_eq_cons_iff.mp hrest
    refine ⟨before.reverse, d, after.reverse, ?_, congrArg Prod.fst hd, congrArg Prod.snd hd,
      fun e he heq => ?_⟩
    · rw [← List.reverse_reverse ds, hds, List.reverse_append, List.reverse_cons,
        List.append_assoc, List.singleton_append]
    · have hne := hnewer e.entry (List.mem_map_of_mem (List.mem_reverse.mp he))
      simp [DeclaredColumn.entry, heq] at hne
  · -- and the other way round
    rintro ⟨before, d, after, rfl, rfl, rfl, hafter⟩
    refine ⟨after.reverse.map DeclaredColumn.entry, before.reverse.map DeclaredColumn.entry, ?_,
      fun p hp => ?_⟩
    · simp [DeclaredColumn.entry]
    · obtain ⟨e, he, rfl⟩ := List.mem_map.mp hp
      have hne := hafter e (List.mem_reverse.mp he)
      simpa [DeclaredColumn.entry] using hne.symm

/-- The scope of a query holds the declared columns, the last one first. -/
theorem kinds_scope (h : q.scope catalog = .ok scope) :
    scope.kinds = ((q.declared catalog).map DeclaredColumn.entry).reverse := by
  obtain ⟨columns, known, ht, -, hjoins, rfl⟩ := scope_eq_ok_iff.mp h
  rw [TableScope.kinds_resolved, (TableScope.extends_of_addJoins hjoins).kinds, declared,
    List.map_append, List.reverse_append, List.append_cancel_left_eq, sourceDeclared,
    Catalog.columnsOf_eq ht, sourceScope, Scope.addQualified, Scope.kinds_foldl_insert,
    Scope.addBare, Scope.kinds_foldl_insert, List.map_append, List.reverse_append, List.map_map,
    List.map_map]
  exact congrArg _ (List.append_nil _)

/-- The names under which the tables of a query go are distinct. -/
theorem nodup_tableNames (h : q.scope catalog = .ok scope) : q.tableNames.Nodup := by
  obtain ⟨columns, known, -, -, hjoins, -⟩ := scope_eq_ok_iff.mp h
  have hextends := TableScope.extends_of_addJoins hjoins
  have hnodup := hextends.nodup (List.nodup_singleton q.sourceTable)
  rw [hextends.qualifiers] at hnodup
  rw [tableNames, ← List.nodup_reverse, List.reverse_cons]
  exact hnodup

/-- A name is legal exactly if a declared column goes by it. -/
theorem contains_scope_iff (h : q.scope catalog = .ok scope) {name : String} :
    scope.contains name = true ↔ ∃ d ∈ q.declared catalog, d.name = name := by
  rw [Scope.contains, Scope.kind?, kinds_scope h, List.lookup_isSome_iff]
  constructor
  · rintro ⟨p, hp, hname⟩
    obtain ⟨d, hd, rfl⟩ := List.mem_map.mp (List.mem_reverse.mp hp)
    exact ⟨d, hd, (beq_iff_eq.mp hname).symm⟩
  · rintro ⟨d, hd, rfl⟩
    exact ⟨d.entry, List.mem_reverse.mpr (List.mem_map_of_mem hd), beq_self_eq_true _⟩

/-- A declared column is one of the source table or of a joined one. -/
theorem mem_declared_iff {d : DeclaredColumn} :
    d ∈ q.declared catalog ↔
      (d.column ∈ catalog.columnsOf q.sourceTable ∧
        (d.qualifier? = none ∨ d.qualifier? = some q.sourceTable)) ∨
      ∃ join ∈ q.joins, d.column ∈ catalog.columnsOf join.table ∧
        d.qualifier? = some join.qualifier := by
  obtain ⟨qualifier, column⟩ := d
  simp only [declared, sourceDeclared, Join.declared, List.mem_append, List.mem_map,
    List.mem_flatMap, DeclaredColumn.mk.injEq]
  constructor
  · -- the three parts of the list
    rintro ((⟨c, hc, rfl, rfl⟩ | ⟨c, hc, rfl, rfl⟩) | ⟨join, hjoin, c, hc, rfl, rfl⟩)
    · exact .inl ⟨hc, .inl rfl⟩
    · exact .inl ⟨hc, .inr rfl⟩
    · exact .inr ⟨join, hjoin, hc, rfl⟩
  · rintro (⟨hc, rfl | rfl⟩ | ⟨join, hjoin, hc, rfl⟩)
    · exact .inl (.inl ⟨column, hc, rfl, rfl⟩)
    · exact .inl (.inr ⟨column, hc, rfl, rfl⟩)
    · exact .inr ⟨join, hjoin, column, hc, rfl, rfl⟩

/-- The tables of a query go under valid names. -/
theorem tableNames_valid (h : q.scope catalog = .ok scope) :
    ∀ name ∈ q.tableNames, Name.isValid name = true := by
  rw [tableNames, List.forall_mem_cons]
  refine ⟨(source_checked h).2, fun name hname => ?_⟩
  obtain ⟨join, hjoin, rfl⟩ := List.mem_map.mp hname
  obtain ⟨-, hvalid, halias⟩ := joins_checked h join hjoin
  unfold Join.qualifier
  cases ha : join.aliasName with
  | none => exact hvalid
  | some aliasName => exact halias aliasName ha

/-- A declared column goes under the name of a table, if under any. -/
theorem mem_tableNames_of_declared {d : DeclaredColumn} (hd : d ∈ q.declared catalog) :
    ∀ qualifier ∈ d.qualifier?, qualifier ∈ q.tableNames := by
  intro qualifier hq
  rw [Option.mem_def] at hq
  rw [tableNames, List.mem_cons]
  -- a source column, bare or qualified, or a joined one
  rcases mem_declared_iff.mp hd with ⟨-, hnone | hsome⟩ | ⟨join, hjoin, -, hsome⟩
  · rw [hnone] at hq
    cases hq
  · rw [hsome, Option.some.injEq] at hq
    exact .inl hq.symm
  · rw [hsome, Option.some.injEq] at hq
    exact .inr (hq ▸ List.mem_map_of_mem hjoin)

/-- No declared column goes under an empty name. -/
theorem declared_qualifier_ne (h : q.scope catalog = .ok scope) {d : DeclaredColumn}
    (hd : d ∈ q.declared catalog) : ∀ qualifier ∈ d.qualifier?, qualifier ≠ "" := by
  intro qualifier hq
  have hvalid := tableNames_valid h qualifier (mem_tableNames_of_declared hd qualifier hq)
  exact (Name.isValid_iff.mp hvalid).1

/-- A qualified name is longer than the name in it. -/
theorem qualified_ne (qualifier name : String) : Scope.qualified qualifier name ≠ name := by
  intro h
  have hlength := congrArg (fun s => s.toList.length) h
  simp only [Scope.qualified, String.toList_append, List.length_append] at hlength
  have hdot : ".".toList.length = 1 := rfl
  omega

/-- A shared name is written behind the source table's name, any other one as it is. -/
theorem resolve_scope (h : q.scope catalog = .ok scope) (name : String) :
    (q.IsShared catalog name → scope.resolve name = Scope.qualified q.sourceTable name) ∧
      (¬ q.IsShared catalog name → scope.resolve name = name) := by
  obtain ⟨columns, known, ht, -, hjoins, rfl⟩ := scope_eq_ok_iff.mp h
  -- what the scope holds of the joins is what they declare
  have hshared : q.IsShared catalog name ↔
      (∃ c ∈ columns, c.name = name) ∧ name ∈ known.joinedColumns := by
    rw [(TableScope.extends_of_addJoins hjoins).mem_joinedColumns, IsShared,
      Catalog.columnsOf_eq ht]
    simp [sourceScope]
  rw [TableScope.resolve_resolved, hshared]
  refine ⟨fun hs => if_pos hs, fun hs => ?_⟩
  rw [if_neg hs, resolve_addJoins_sourceScope hjoins]

/-- Legal are the columns of the source table, bare and behind its name, and those of each joined
table behind the name of the join. -/
theorem contains_scope_iff_columns (h : q.scope catalog = .ok scope) {name : String} :
    scope.contains name = true ↔
      (∃ c ∈ catalog.columnsOf q.sourceTable,
        name = c.name ∨ name = Scope.qualified q.sourceTable c.name) ∨
      ∃ join ∈ q.joins, ∃ c ∈ catalog.columnsOf join.table,
        name = Scope.qualified join.qualifier c.name := by
  rw [contains_scope_iff h]
  constructor
  · rintro ⟨⟨qualifier, c⟩, hd, rfl⟩
    -- by the parts of the declared columns, in either direction
    rcases mem_declared_iff.mp hd with ⟨hc, rfl | rfl⟩ | ⟨join, hjoin, hc, rfl⟩
    · exact .inl ⟨c, hc, .inl rfl⟩
    · exact .inl ⟨c, hc, .inr rfl⟩
    · exact .inr ⟨join, hjoin, c, hc, rfl⟩
  · rintro (⟨c, hc, rfl | rfl⟩ | ⟨join, hjoin, c, hc, rfl⟩)
    · exact ⟨⟨none, c⟩, mem_declared_iff.mpr (.inl ⟨hc, .inl rfl⟩), rfl⟩
    · exact ⟨⟨some q.sourceTable, c⟩, mem_declared_iff.mpr (.inl ⟨hc, .inr rfl⟩), rfl⟩
    · exact ⟨⟨some join.qualifier, c⟩, mem_declared_iff.mpr (.inr ⟨join, hjoin, hc, rfl⟩), rfl⟩

/-- What a scope says of the names of columns is what the tables of the query make of them. -/
structure ExactScope (catalog : Catalog) (q : Query) (scope : Scope) : Prop where
  /-- Legal are the columns of the source table, bare and behind its name, and those of each joined
  table behind the name of the join. -/
  contains_iff : ∀ name, scope.contains name = true ↔
    (∃ c ∈ catalog.columnsOf q.sourceTable,
      name = c.name ∨ name = Scope.qualified q.sourceTable c.name) ∨
    ∃ join ∈ q.joins, ∃ c ∈ catalog.columnsOf join.table,
      name = Scope.qualified join.qualifier c.name
  /-- Of the columns that go by a name the one declared last decides the kind. -/
  kind_iff : ∀ name kind, scope.kind? name = some kind ↔ ∃ before d after,
    q.declared catalog = before ++ d :: after ∧ d.name = name ∧ d.column.kind = kind ∧
      ∀ e ∈ after, e.name ≠ name
  /-- A name is written behind the source table's name exactly if both that table and a joined one
  have a column of this name. -/
  resolve_iff : ∀ name, scope.resolve name = Scope.qualified q.sourceTable name ↔
    q.IsShared catalog name
  /-- Every other name is written as it is. -/
  resolve_self : ∀ name, ¬ q.IsShared catalog name → scope.resolve name = name
  /-- What is written for a legal name is a legal name. -/
  contains_resolve : ∀ name, scope.contains name = true →
    scope.contains (scope.resolve name) = true
  /-- No two tables go under one name. -/
  nodup_tableNames : q.tableNames.Nodup

/-- The scope of a query says of each name whether it is legal, of which kind it is and how it is
written, and keeps the tables apart. -/
theorem scope_exact (h : q.scope catalog = .ok scope) : q.ExactScope catalog scope where
  contains_iff _ := contains_scope_iff_columns h
  kind_iff name kind := by rw [Scope.kind?, kinds_scope h, lookup_reverse_eq_some_iff]
  resolve_iff name := by
    refine ⟨fun hr => ?_, (resolve_scope h name).1⟩
    -- a name that is not shared stays shorter than any qualified one
    by_contra hnot
    rw [(resolve_scope h name).2 hnot] at hr
    exact qualified_ne _ _ hr.symm
  resolve_self name := (resolve_scope h name).2
  contains_resolve _ := contains_resolve h
  nodup_tableNames := nodup_tableNames h

/-- Tables whose columns meet under one name: a column of the first one is spelled like a column of
the other behind its name, and one is declared twice. -/
def crossedCatalog : Catalog :=
  (Catalog.empty.insert "orders"
    [⟨"id", .integer⟩, ⟨"u.id", .text⟩, ⟨"city", .text⟩, ⟨"id", .real⟩]).insert "users"
    [⟨"id", .boolean⟩]

/-- A table joined with itself and with another one. -/
def crossedSample : Query where
  sourceTable := "orders"
  columns := []
  expressionColumns := []
  joins := [⟨.left, "users", some "u", "orders.id", "u.id"⟩,
    ⟨.inner, "orders", some "o", "orders.id", "o.id"⟩]
  filters := none
  groupBy := []
  orderBy := []
  limit := none
  offset := none

/-- Names of the sample that are declared twice, shared, or look like those of another table. -/
theorem crossedSample_exact : ∃ scope, crossedSample.scope crossedCatalog = .ok scope ∧
    scope.kind? "u.id" = some .boolean ∧ scope.kind? "id" = some .real ∧
      scope.resolve "city" = "orders.city" ∧ scope.resolve "o.city" = "o.city" ∧
      scope.contains "o.u.id" = true ∧ crossedSample.tableNames.Nodup := by
  have hscope : ∃ scope, crossedSample.scope crossedCatalog = .ok scope := ⟨_, rfl⟩
  obtain ⟨scope, hs⟩ := hscope
  have hexact := scope_exact hs
  have hcity : crossedSample.IsShared crossedCatalog "city" :=
    ⟨⟨⟨"city", .text⟩, by decide, rfl⟩, ⟨.inner, "orders", some "o", "orders.id", "o.id"⟩,
      by decide, ⟨"city", .text⟩, by decide, rfl⟩
  have hother : ¬ crossedSample.IsShared crossedCatalog "o.city" := by
    rintro ⟨hsource, -⟩
    exact absurd hsource (by decide)
  refine ⟨scope, hs, ?_, ?_, (hexact.resolve_iff _).mpr hcity, hexact.resolve_self _ hother,
    ?_, hexact.nodup_tableNames⟩
  · -- declared by both, the joined column comes last
    exact (hexact.kind_iff _ _).mpr ⟨(crossedSample.declared crossedCatalog).take 8,
      ⟨some "u", ⟨"id", .boolean⟩⟩, (crossedSample.declared crossedCatalog).drop 9,
      rfl, rfl, rfl, by decide⟩
  · -- declared once
    exact (hexact.kind_iff _ _).mpr ⟨(crossedSample.declared crossedCatalog).take 3,
      ⟨none, ⟨"id", .real⟩⟩, (crossedSample.declared crossedCatalog).drop 4,
      rfl, rfl, rfl, by decide⟩
  · -- a joined column with a dot in its name
    exact (hexact.contains_iff _).mpr (.inr ⟨⟨.inner, "orders", some "o", "orders.id", "o.id"⟩,
      by decide, ⟨"u.id", .text⟩, by decide, rfl⟩)

end Query

end DashQuery
