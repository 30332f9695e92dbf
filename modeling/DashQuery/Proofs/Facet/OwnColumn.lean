import DashQuery.Facet
import DashQuery.Proofs.Compile.Declared
import DashQuery.Proofs.Filter.Strip
import DashQuery.Proofs.Statement.Vocabulary

/-!
# Which filters a facet drops

A facet drops the conditions on its column.  Columns are compared by their names up to
the source table's name in front, so a column of the source table is found under both
of its names.  Where names of tables or columns hold dots, two columns of different
tables can have such names as well; then a facet of the one drops the conditions on the
other.

## Key results

- `sameColumn_iff`: when two names are taken for one column
- `FilterGroup.not_mem_leaves_strip_iff`: which conditions are dropped with a column
- `Query.dropsOnlyOwn_iff`: exactly when only conditions on the column itself are dropped
- `Query.strip_own_column`: what a facet drops, and names for which it drops no more
-/

namespace DashQuery

/-! ## Names behind the source table's name -/

/-- The name is made of the source table's name, a dot and something behind it. -/
def IsBehind (source name : String) : Prop := ∃ rest, name = Scope.qualified source rest

/-- One of the names is the other one behind the source table's name, and that one is behind it no
more. -/
def IsOtherForm (source a b : String) : Prop :=
  ∃ name, ¬IsBehind source name ∧
    (a = name ∧ b = Scope.qualified source name ∨ a = Scope.qualified source name ∧ b = name)

/-- Two forms of one name are so in either order. -/
theorem IsOtherForm.symm {source a b : String} (h : IsOtherForm source a b) :
    IsOtherForm source b a := by
  obtain ⟨name, hname, ⟨ha, hb⟩ | ⟨ha, hb⟩⟩ := h
  · exact ⟨name, hname, .inr ⟨hb, ha⟩⟩
  · exact ⟨name, hname, .inl ⟨hb, ha⟩⟩

/-- Two forms of one name are different names. -/
theorem IsOtherForm.ne {source a b : String} (h : IsOtherForm source a b) : a ≠ b := by
  obtain ⟨name, -, ⟨rfl, rfl⟩ | ⟨rfl, rfl⟩⟩ := h
  · exact (Query.qualified_ne source _).symm
  · exact Query.qualified_ne source _

/-- What stands behind the source table's name is left when that is taken away. -/
theorem withoutSource_qualified (source name : String) :
    withoutSource source (Scope.qualified source name) = name := by
  have htext : (Scope.qualified source name).toList = source.toList ++ '.' :: name.toList := by
    simp [Scope.qualified]
  have hprefix : source.toList.isPrefixOf (source.toList ++ '.' :: name.toList) = true :=
    List.isPrefixOf_iff_prefix.mpr (List.prefix_append _ _)
  rw [withoutSource, htext, if_pos hprefix, List.drop_left]
  exact String.ofList_toList

/-- A name is left as it is exactly if it is not behind the source table's name. -/
theorem withoutSource_eq_self_iff {source name : String} :
    withoutSource source name = name ↔ ¬IsBehind source name := by
  constructor
  · rintro h ⟨rest, rfl⟩
    rw [withoutSource_qualified] at h
    exact Query.qualified_ne source rest h.symm
  · intro h
    unfold withoutSource
    split
    · next hprefix =>
      split
      · next rest hrest =>
        -- a dot behind the source's name would put the name behind it
        obtain ⟨tail, htail⟩ := List.isPrefixOf_iff_prefix.mp hprefix
        rw [← htail, List.drop_left] at hrest
        refine absurd ⟨String.ofList rest, String.ext ?_⟩ h
        rw [← htail, hrest]
        simp [Scope.qualified]
      · rfl
    · rfl

/-- Two names are taken for one column exactly if they are the same, or one is the other form of the
other one. -/
theorem sameColumn_iff {source a b : String} :
    sameColumn source a b = true ↔ a = b ∨ IsOtherForm source a b := by
  rw [sameColumn, beq_iff_eq]
  constructor
  · intro h
    -- names are compared without the source table's name where they are behind it
    by_cases ha : IsBehind source a
    · obtain ⟨a', rfl⟩ := ha
      rw [withoutSource_qualified] at h
      by_cases hb : IsBehind source b
      · obtain ⟨b', rfl⟩ := hb
        rw [withoutSource_qualified] at h
        exact .inl (congrArg _ h)
      · rw [withoutSource_eq_self_iff.mpr hb] at h
        exact .inr ⟨b, hb, .inr ⟨by rw [h], rfl⟩⟩
    · rw [withoutSource_eq_self_iff.mpr ha] at h
      by_cases hb : IsBehind source b
      · obtain ⟨b', rfl⟩ := hb
        rw [withoutSource_qualified] at h
        exact .inr ⟨a, ha, .inl ⟨rfl, by rw [h]⟩⟩
      · rw [withoutSource_eq_self_iff.mpr hb] at h
        exact .inl h
  · -- the two forms differ by the table's name alone
    rintro (rfl | ⟨name, hname, ⟨rfl, rfl⟩ | ⟨rfl, rfl⟩⟩)
    · rfl
    · rw [withoutSource_qualified, withoutSource_eq_self_iff.mpr hname]
    · rw [withoutSource_qualified, withoutSource_eq_self_iff.mpr hname]

/-- A condition of a filter is dropped with a column exactly if its name is taken for that
column. -/
theorem FilterGroup.not_mem_leaves_strip_iff {g : FilterGroup} {c : Condition} (hc : c ∈ g.leaves)
    (source column : String) :
    c ∉ (g.strip source column).leaves ↔
      c.column = column ∨ IsOtherForm source c.column column := by
  rw [leaves_strip, List.mem_filter, ← sameColumn_iff]
  simp [hc]

/-! ## Legal names -/

namespace Query

variable {catalog : Catalog} {q : Query} {scope : Scope} {a b name : String}

/-- The two names refer to the same column: they are the same, or they are the bare name of a column
of the source table and its name behind the table's. -/
def IsOneColumn (catalog : Catalog) (q : Query) (a b : String) : Prop :=
  a = b ∨ ∃ c ∈ catalog.columnsOf q.sourceTable,
    a = c.name ∧ b = Scope.qualified q.sourceTable c.name ∨
      a = Scope.qualified q.sourceTable c.name ∧ b = c.name

/-- The name is that of a joined table's column. -/
def IsJoinedName (catalog : Catalog) (q : Query) (name : String) : Prop :=
  ∃ join ∈ q.joins, ∃ c ∈ catalog.columnsOf join.table,
    name = Scope.qualified join.qualifier c.name

/-- A condition is dropped only with its own column: when one on a legal name is dropped with a
legal target, both refer to the same column, and they are the same name if the condition is on a
joined table's column. -/
def DropsOnlyOwn (catalog : Catalog) (q : Query) (scope : Scope) : Prop :=
  ∀ (g : FilterGroup) (target : String), scope.contains target = true →
    ∀ c ∈ g.leaves, scope.contains c.column = true →
      c ∉ (g.strip q.sourceTable target).leaves →
        q.IsOneColumn catalog c.column target ∧
          (q.IsJoinedName catalog c.column → c.column = target)

/-- The name of a joined column is legal. -/
theorem IsJoinedName.contains (h : q.scope catalog = .ok scope)
    (hname : q.IsJoinedName catalog name) : scope.contains name = true := by
  obtain ⟨join, hjoin, c, hc, rfl⟩ := hname
  exact (contains_scope_iff h).mpr
    ⟨⟨some join.qualifier, c⟩, mem_declared_iff.mpr (.inr ⟨join, hjoin, hc, rfl⟩), rfl⟩

/-- A legal name is that of a column of the source table, bare or behind the table's name, or that
of a joined column. -/
theorem source_or_joined (h : q.scope catalog = .ok scope) (hlegal : scope.contains name = true) :
    (∃ c ∈ catalog.columnsOf q.sourceTable,
      name = c.name ∨ name = Scope.qualified q.sourceTable c.name) ∨
        q.IsJoinedName catalog name := by
  obtain ⟨⟨qualifier?, c⟩, hd, rfl⟩ := (contains_scope_iff h).mp hlegal
  rcases mem_declared_iff.mp hd with ⟨hc, rfl | rfl⟩ | ⟨join, hjoin, hc, rfl⟩
  · exact .inl ⟨c, hc, .inl rfl⟩
  · exact .inl ⟨c, hc, .inr rfl⟩
  · exact .inr ⟨join, hjoin, c, hc, rfl⟩

/-- Two legal names that are other forms of each other belong to one column of the source table, if
no joined column has one of them. -/
theorem isOneColumn_of_isOtherForm (h : q.scope catalog = .ok scope)
    (ha : scope.contains a = true) (hb : scope.contains b = true)
    (hja : ¬q.IsJoinedName catalog a) (hjb : ¬q.IsJoinedName catalog b)
    (hform : IsOtherForm q.sourceTable a b) : q.IsOneColumn catalog a b := by
  obtain ⟨name, hname, hsides⟩ := hform
  -- the shorter one is bare, as it is not behind the source table's name
  have hbare : ∀ {x : String}, scope.contains x = true → ¬q.IsJoinedName catalog x → x = name →
      ∃ c ∈ catalog.columnsOf q.sourceTable, name = c.name := by
    rintro x hx hjx rfl
    rcases (source_or_joined h hx).resolve_right hjx with ⟨c, hc, hbare | hbehind⟩
    · exact ⟨c, hc, hbare⟩
    · exact absurd ⟨c.name, hbehind⟩ hname
  rcases hsides with ⟨hna, hqb⟩ | ⟨hqa, hnb⟩
  · obtain ⟨c, hc, rfl⟩ := hbare ha hja hna
    exact .inr ⟨c, hc, .inl ⟨hna, hqb⟩⟩
  · obtain ⟨c, hc, rfl⟩ := hbare hb hjb hnb
    exact .inr ⟨c, hc, .inr ⟨hqa, hnb⟩⟩

/-- A joined column's name is not behind the source table's, if no table's name holds a dot. -/
theorem IsJoinedName.not_isBehind (h : q.scope catalog = .ok scope)
    (htables : ∀ table ∈ q.tableNames, '.' ∉ table.toList) (ha : q.IsJoinedName catalog a) :
    ¬IsBehind q.sourceTable a := by
  obtain ⟨hsource, hjoins⟩ := List.forall_mem_cons.mp htables
  obtain ⟨hfresh, -⟩ := List.nodup_cons.mp (nodup_tableNames h)
  obtain ⟨join, hjoin, c, -, rfl⟩ := ha
  rintro ⟨rest, heq⟩
  have hmem := List.mem_map_of_mem (f := Join.qualifier) hjoin
  obtain ⟨hqualifier, -⟩ := Scope.qualified_inj_of_dotless (hjoins _ hmem) hsource heq
  exact hfresh (hqualifier ▸ hmem)

/-- Where dots stand only between the names of tables and columns, a joined column's name has no
other legal form. -/
theorem IsJoinedName.not_isOtherForm (h : q.scope catalog = .ok scope)
    (htables : ∀ table ∈ q.tableNames, '.' ∉ table.toList)
    (hcolumns : ∀ c ∈ catalog.columnsOf q.sourceTable, '.' ∉ c.name.toList)
    (ha : q.IsJoinedName catalog a) (hb : scope.contains b = true) :
    ¬IsOtherForm q.sourceTable a b := by
  rintro ⟨name, hname, ⟨rfl, rfl⟩ | ⟨rfl, -⟩⟩
  · -- a column of the source table would have a dot in its name
    have hdot : '.' ∈ a.toList := by
      obtain ⟨join, -, c, -, rfl⟩ := ha
      simp [Scope.qualified]
    rcases source_or_joined h hb with ⟨c, hc, hbare | hqualified⟩ | hjoined
    · refine hcolumns c hc ?_
      rw [← hbare]
      simp [Scope.qualified]
    · refine hcolumns c hc ?_
      rw [← Scope.qualified_inj hqualified]
      exact hdot
    · exact hjoined.not_isBehind h htables ⟨_, rfl⟩
  · -- a joined name does not stand behind the source table's name
    exact ha.not_isBehind h htables ⟨_, rfl⟩

/-- Only conditions on the target column itself are dropped exactly if no joined column's name has
another legal form. -/
theorem dropsOnlyOwn_iff (h : q.scope catalog = .ok scope) :
    q.DropsOnlyOwn catalog scope ↔
      ∀ name other, q.IsJoinedName catalog name → scope.contains other = true →
        ¬IsOtherForm q.sourceTable name other := by
  constructor
  · intro hown name other hname hother hform
    -- a condition on the joined column would be dropped with its other form
    let g : FilterGroup := ⟨.and, [.condition ⟨name, "=", .null⟩]⟩
    have hmem : (⟨name, "=", .null⟩ : Condition) ∈ g.leaves := by
      simp [g, FilterGroup.leaves, FilterNode.leaves, FilterNode.leavesOf]
    have hdropped := (FilterGroup.not_mem_leaves_strip_iff hmem q.sourceTable other).mpr
      (.inr hform)
    exact hform.ne ((hown g other hother _ hmem (hname.contains h) hdropped).2 hname)
  · intro hnone g target htarget c hc hlegal hdropped
    rcases (FilterGroup.not_mem_leaves_strip_iff hc _ _).mp hdropped with heq | hform
    · exact ⟨.inl heq, fun _ => heq⟩
    · -- no joined column has one of the two names, so both are the source table's
      have hcolumn : ¬q.IsJoinedName catalog c.column := fun hj => hnone _ _ hj htarget hform
      have hother : ¬q.IsJoinedName catalog target := fun hj => hnone _ _ hj hlegal hform.symm
      exact ⟨isOneColumn_of_isOtherForm h hlegal htarget hcolumn hother hform,
        fun hj => absurd hj hcolumn⟩

/-- Which conditions a facet drops.  A condition is dropped exactly if it is on the target's name or
on the other form of it, behind the source table's name or without.  Only conditions on the target
column itself are dropped exactly if no joined column's name has another legal form.  So it is where
no name of a table and no column of the source table holds a dot. -/
theorem strip_own_column (h : q.scope catalog = .ok scope) :
    (∀ (g : FilterGroup) (target : String), ∀ c ∈ g.leaves,
      (c ∉ (g.strip q.sourceTable target).leaves ↔
        c.column = target ∨ IsOtherForm q.sourceTable c.column target)) ∧
    (q.DropsOnlyOwn catalog scope ↔
      ∀ name other, q.IsJoinedName catalog name → scope.contains other = true →
        ¬IsOtherForm q.sourceTable name other) ∧
    ((∀ table ∈ q.tableNames, '.' ∉ table.toList) →
      (∀ c ∈ catalog.columnsOf q.sourceTable, '.' ∉ c.name.toList) →
        q.DropsOnlyOwn catalog scope) := by
  refine ⟨fun g target c hc => FilterGroup.not_mem_leaves_strip_iff hc _ _, dropsOnlyOwn_iff h,
    fun htables hcolumns => ?_⟩
  -- without dots no joined name reads as one behind the source table's name
  refine (dropsOnlyOwn_iff h).mpr fun name other hname hother => ?_
  exact hname.not_isOtherForm h htables hcolumns hother

/-- Tables of which `shop` has a column that goes by the same name as a column of `u` behind the
name of `shop.orders`. -/
def lookalikeCatalog : Catalog :=
  ((Catalog.empty.insert "shop.orders" [⟨"id", .integer⟩]).insert "shop"
    [⟨"id", .integer⟩, ⟨"owner_id", .integer⟩, ⟨"orders.u.city", .text⟩]).insert "users"
    [⟨"id", .integer⟩, ⟨"city", .text⟩]

/-- A query with a condition on the column `orders.u.city` of `shop`. -/
def lookalikeSample : Query where
  sourceTable := "shop.orders"
  columns := []
  expressionColumns := []
  joins := [⟨.inner, "shop", none, "shop.id", "shop.id"⟩,
    ⟨.left, "users", some "u", "shop.owner_id", "u.id"⟩]
  filters := some (.list [.condition ⟨"shop.orders.u.city", "=", .str "x"⟩])
  groupBy := []
  orderBy := []
  limit := none
  offset := none

/-- A joined column's name begins with that of the source table and a dot; in the other sample none
does. -/
theorem lookalikeSample_drops :
    (∃ scope, lookalikeSample.scope lookalikeCatalog = .ok scope ∧
      ¬lookalikeSample.DropsOnlyOwn lookalikeCatalog scope) ∧
    ∃ scope, sample.scope sampleCatalog = .ok scope ∧ sample.DropsOnlyOwn sampleCatalog scope := by
  constructor
  · have hscope : ∃ scope, lookalikeSample.scope lookalikeCatalog = .ok scope ∧
        scope.contains "u.city" = true := ⟨_, rfl, rfl⟩
    obtain ⟨scope, hs, hlegal⟩ := hscope
    refine ⟨scope, hs, fun hown => ?_⟩
    -- the column of the joined table
    have hjoined : lookalikeSample.IsJoinedName lookalikeCatalog "shop.orders.u.city" :=
      ⟨⟨.inner, "shop", none, "shop.id", "shop.id"⟩, List.mem_cons_self,
        ⟨"orders.u.city", .text⟩, by decide, rfl⟩
    -- its other form is the name of another column
    have hform : IsOtherForm "shop.orders" "shop.orders.u.city" "u.city" :=
      ⟨"u.city", withoutSource_eq_self_iff.mp (by decide), .inr ⟨rfl, rfl⟩⟩
    exact (strip_own_column hs).2.1.mp hown _ _ hjoined hlegal hform
  · -- no name of the sample holds a dot
    have hscope : ∃ scope, sample.scope sampleCatalog = .ok scope := ⟨_, rfl⟩
    obtain ⟨scope, hs⟩ := hscope
    exact ⟨scope, hs, (strip_own_column hs).2.2 (by decide) (by decide)⟩

end Query

end DashQuery
