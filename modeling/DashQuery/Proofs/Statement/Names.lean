import DashQuery.Proofs.Compile.Scope
import DashQuery.Proofs.Expression.Grammar
import DashQuery.Proofs.Filter.Shown
import DashQuery.Proofs.Statement.Words

/-!
# The names a statement quotes

A compiled statement quotes names of registered tables, aliases of joins and of
selected entries, and legal columns, whole or split at the first dot.  Each was
checked before it was written, in the form in which it is written.

## Key results

- `Query.selectAliases_eq`: the aliases that the select list declares
- `Query.CompilesTo.names_checked`: every quoted name is valid and known
- `Query.CompilesTo.legible`: a compiled statement can be read clause by clause
-/

namespace DashQuery

/-! ## Aliases of the select list -/

/-- The alias of a selected column: the one that was given, or that of its function. -/
def ColumnSelection.outputAlias? (c : ColumnSelection) : Option String :=
  match c.aggregate with
  | some function => some (c.aliasName.getD (function.defaultAlias c.column))
  | none => c.aliasName

/-- The aliases of a query's select list, declared or synthesised. -/
def Query.selectAliases (q : Query) : List String :=
  q.columns.filterMap ColumnSelection.outputAlias? ++
    q.expressionColumns.map ExpressionColumn.aliasName

/-- The names that a statement of the query may quote. -/
inductive Query.MayQuote (catalog : Catalog) (q : Query) (scope : Scope) : String → Prop
  | table {name : String} {columns : List Column} (h : catalog.table? name = some columns) :
      MayQuote catalog q scope name
  | joinAlias {name : String} {join : Join} (h : join ∈ q.joins) (ha : join.aliasName = some name) :
      MayQuote catalog q scope name
  | column {name : String} (h : scope.contains name = true) : MayQuote catalog q scope name
  | qualifierOf {whole name column : String} (h : scope.contains whole = true)
      (hs : Name.split? whole = some (name, column)) : MayQuote catalog q scope name
  | columnOf {whole qualifier name : String} (h : scope.contains whole = true)
      (hs : Name.split? whole = some (qualifier, name)) : MayQuote catalog q scope name
  | selectAlias {name : String} (h : name ∈ q.selectAliases) : MayQuote catalog q scope name

/-- The entry of a selected column holds the column's reference and its alias. -/
theorem ColumnSelection.item_facts {scope : Scope} {c : ColumnSelection} {item : SelectItem}
    (h : c.item scope = .ok item) :
    item.aliasName? = c.outputAlias? ∧ item.expression? = none ∧
      (∀ n ∈ c.outputAlias?, Name.isValid n = true) ∧
      ∃ ref, scope.reference c.column = .ok ref ∧
        item.names = ref.parts ++ c.outputAlias?.toList := by
  cases hf : c.aggregate with
  -- a plain column
  | none =>
    obtain ⟨ref, href, halias, rfl⟩ := (item_eq_ok_iff_of_none hf).mp h
    simp only [outputAlias?, hf]
    exact ⟨rfl, rfl, halias, ref, href, rfl⟩
  -- an aggregate has an alias in any case
  | some function =>
    obtain ⟨ref, href, -, halias, rfl⟩ := (item_eq_ok_iff_of_some hf).mp h
    simp only [outputAlias?, hf]
    refine ⟨rfl, rfl, ?_, ref, href, rfl⟩
    rintro n hn
    rw [Option.mem_some_iff] at hn
    exact hn ▸ halias

/-- The entries of computed columns hold the expressions and the aliases as they are. -/
theorem expressionItems_eq {policy : ExpressionPolicy} {scope : Scope} {aliases : List String}
    {cs : List ExpressionColumn} {items : List SelectItem}
    (h : expressionItems policy scope aliases cs = .ok items) :
    items = cs.map fun c => .expression c.expression c.aliasName := by
  induction cs generalizing aliases items with
  | nil => exact (Except.ok.inj h).symm
  | cons c cs ih =>
    obtain ⟨-, -, rest, hrest, rfl⟩ := expressionItems_cons_eq_ok_iff.mp h
    rw [ih hrest, List.map_cons]

/-- Every computed column has a valid name, and its expression passed with aliases that the query
declares. -/
theorem expressions_checked {policy : ExpressionPolicy} {scope : Scope} {aliases : List String}
    {cs : List ExpressionColumn} {items : List SelectItem}
    (h : expressionItems policy scope aliases cs = .ok items) :
    ∀ c ∈ cs, Name.isValid c.aliasName = true ∧ ∃ known,
      policy.check scope known c.expression = .ok () ∧
        ∀ n ∈ known, n ∈ aliases ∨ n ∈ cs.map ExpressionColumn.aliasName := by
  induction cs generalizing aliases items with
  | nil =>
    intro c hc
    cases hc
  | cons c cs ih =>
    obtain ⟨hvalid, hcheck, rest, hrest, rfl⟩ := expressionItems_cons_eq_ok_iff.mp h
    intro e he
    rcases List.mem_cons.mp he with rfl | he
    · exact ⟨hvalid, aliases, hcheck, fun n hn => .inl hn⟩
    · -- the aliases known there are those known here and the ones declared in between
      obtain ⟨hv, known, hc, hknown⟩ := ih hrest e he
      refine ⟨hv, known, hc, fun n hn => ?_⟩
      -- an alias that is known there was known before, or is this column's, or a later one's
      rcases hknown n hn with hmem | hmem
      · rcases List.mem_cons.mp hmem with rfl | hmem
        · exact .inr (by simp)
        · exact .inl hmem
      · exact .inr (List.mem_cons_of_mem _ hmem)

namespace Query

/-- The aliases a select list declares are those of its selections, given or made up. -/
theorem declaredAliases_columnItems {scope : Scope} {cs : List ColumnSelection}
    {items : List SelectItem} (h : columnItems scope cs = .ok items) :
    declaredAliases items = cs.filterMap ColumnSelection.outputAlias? := by
  rw [columnItems_eq_ok_iff] at h
  unfold declaredAliases
  induction h with
  | nil => rfl
  | cons hitem _ ih =>
    rw [List.filterMap_cons, List.filterMap_cons, ih, (ColumnSelection.item_facts hitem).1]

variable {policy : ExpressionPolicy} {scope : Scope} {q : Query} {items : List SelectItem}

/-- The select list declares the aliases that the query gives and synthesises. -/
theorem selectAliases_eq (h : q.selectItems policy scope = .ok items) :
    declaredAliases items = q.selectAliases := by
  obtain ⟨columns, expressions, hc, he, rfl⟩ := selectItems_eq_ok_iff.mp h
  have hcolumns := declaredAliases_columnItems hc
  have hexpressions : declaredAliases expressions =
      q.expressionColumns.map ExpressionColumn.aliasName := by
    rw [expressionItems_eq he, declaredAliases, List.filterMap_map]
    simp [Function.comp_def, SelectItem.aliasName?]
  unfold declaredAliases at hcolumns hexpressions ⊢
  rw [List.filterMap_append, hcolumns, hexpressions, selectAliases]

/-- The expression of every computed column passed with aliases that the query declares. -/
theorem expressionColumns_checked (h : q.selectItems policy scope = .ok items) :
    ∀ c ∈ q.expressionColumns, Name.isValid c.aliasName = true ∧ ∃ known,
      policy.check scope known c.expression = .ok () ∧ known ⊆ q.selectAliases := by
  obtain ⟨columns, expressions, hc, he, rfl⟩ := selectItems_eq_ok_iff.mp h
  intro c hmem
  obtain ⟨hv, known, hcheck, hknown⟩ := expressions_checked he c hmem
  refine ⟨hv, known, hcheck, fun n hn => ?_⟩
  rw [selectAliases, List.mem_append, ← declaredAliases_columnItems hc]
  exact hknown n hn

/-! ## Quoted names -/

variable {catalog : Catalog} {settings : Settings} {s : SelectStatement}

/-- The parts of a reference are valid, and known as a legal column or a side of one. -/
theorem reference_checked (hscope : q.scope catalog = .ok scope) {name : String} {ref : ColumnRef}
    (h : scope.reference name = .ok ref) :
    ∀ part ∈ ref.parts, Name.isValid part = true ∧ q.MayQuote catalog scope part := by
  obtain ⟨hvalid, hlegal, rfl⟩ := Scope.reference_eq_ok_iff.mp h
  -- the name was checked as it was given, but it is written as it is resolved
  have hlegal' := contains_resolve hscope hlegal
  intro part hpart
  refine ⟨ColumnRef.isValid_ofName (isValid_resolve hscope hvalid) part hpart, ?_⟩
  rcases ColumnRef.mem_parts_ofName hpart with rfl | ⟨a, b, hs, rfl | rfl⟩
  · exact .column hlegal'
  · exact .qualifierOf hlegal' hs
  · exact .columnOf hlegal' hs

/-- Every name in an entry of the select list is valid and known. -/
theorem items_checked (hscope : q.scope catalog = .ok scope)
    (h : q.selectItems policy scope = .ok items) :
    ∀ item ∈ items, ∀ name ∈ item.names,
      Name.isValid name = true ∧ q.MayQuote catalog scope name := by
  obtain ⟨columns, expressions, hc, he, rfl⟩ := selectItems_eq_ok_iff.mp h
  intro item hitem name hname
  rcases List.mem_append.mp hitem with hitem | hitem
  · -- a selected column quotes its reference and its alias
    rw [columnItems_eq_ok_iff] at hc
    obtain ⟨c, hmem, hcitem⟩ := exists_of_mem_right hc hitem
    obtain ⟨-, -, halias, ref, href, hnames⟩ := ColumnSelection.item_facts hcitem
    rw [hnames, List.mem_append] at hname
    rcases hname with hname | hname
    · exact reference_checked hscope href name hname
    · rw [Option.mem_toList] at hname
      refine ⟨halias name hname, .selectAlias ?_⟩
      exact List.mem_append_left _ (List.mem_filterMap.mpr ⟨c, hmem, hname⟩)
  · -- a computed column quotes nothing but its alias; its expression is no name
    rw [expressionItems_eq he] at hitem
    obtain ⟨c, hmem, rfl⟩ := List.mem_map.mp hitem
    rw [List.mem_singleton.mp hname]
    refine ⟨(expressions_checked he c hmem).1, .selectAlias ?_⟩
    exact List.mem_append_right _ (List.mem_map_of_mem hmem)

/-- Every name in a join is valid and known. -/
theorem joinClauses_checked (hscope : q.scope catalog = .ok scope) {clauses : List JoinClause}
    (h : joinClauses scope q.joins = .ok clauses) :
    ∀ j ∈ clauses, ∀ name ∈ j.names,
      Name.isValid name = true ∧ q.MayQuote catalog scope name := by
  rw [joinClauses_eq_ok_iff] at h
  intro j hj name hname
  obtain ⟨join, hmem, hclause⟩ := exists_of_mem_right h hj
  obtain ⟨left, right, hleft, hright, rfl⟩ := Join.clause_eq_ok_iff.mp hclause
  obtain ⟨⟨columns, htable⟩, hvalid, halias⟩ := joins_checked hscope join hmem
  simp only [JoinClause.names, List.cons_append, List.mem_cons, List.mem_append,
    Option.mem_toList] at hname
  -- the table, the alias, and the two sides of the condition
  rcases hname with rfl | (hname | hname) | hname
  · exact ⟨hvalid, .table htable⟩
  · exact ⟨halias name hname, .joinAlias hmem hname⟩
  · exact reference_checked hscope (Scope.joinReference_eq_ok_iff.mp hleft).2 name hname
  · exact reference_checked hscope (Scope.joinReference_eq_ok_iff.mp hright).2 name hname

/-- Every name in a list of references is valid and known. -/
theorem references_checked (hscope : q.scope catalog = .ok scope) {names : List String}
    {refs : List ColumnRef} (h : references scope names = .ok refs) :
    ∀ ref ∈ refs, ∀ part ∈ ref.parts,
      Name.isValid part = true ∧ q.MayQuote catalog scope part := by
  rw [references_eq_ok_iff] at h
  intro ref href
  obtain ⟨name, -, hname⟩ := exists_of_mem_right h href
  exact reference_checked hscope hname

/-- A sort key is an alias of the select list or a legal column. -/
theorem sortTerms_checked (hscope : q.scope catalog = .ok scope)
    (hitems : q.selectItems policy scope = .ok items) {ks : List SortKey} {ts : List SortTerm}
    (h : sortTerms scope (declaredAliases items) ks = .ok ts) :
    ∀ t ∈ ts, ∀ part ∈ t.ref.parts,
      Name.isValid part = true ∧ q.MayQuote catalog scope part := by
  rw [sortTerms_eq_ok_iff] at h
  intro t ht part hpart
  obtain ⟨k, -, hk⟩ := exists_of_mem_right h ht
  obtain ⟨-, hvalid, hterm⟩ := SortKey.term_eq_ok_iff.mp hk
  split at hterm
  -- an alias of the select list goes before a column
  · next hmem =>
    rw [selectAliases_eq hitems] at hmem
    rw [hterm, ColumnRef.parts, List.mem_singleton] at hpart
    exact hpart ▸ ⟨hvalid, .selectAlias hmem⟩
  · exact reference_checked hscope hterm part hpart

/-- Every name that a compiled statement quotes is valid and known. -/
theorem CompilesTo.names_checked (h : q.CompilesTo settings catalog scope s) :
    ∀ name ∈ s.names, Name.isValid name = true ∧ q.MayQuote catalog scope name := by
  intro name hname
  simp only [SelectStatement.names, List.mem_append, List.mem_cons, List.mem_flatMap] at hname
  -- the select list, the source, the joins, the groups, the sort keys
  rcases hname with ((⟨item, hitem, hname⟩ | rfl | ⟨j, hj, hname⟩) | ⟨ref, href, hname⟩) |
    ⟨t, ht, hname⟩
  · exact items_checked h.scope_eq h.items item hitem name hname
  · obtain ⟨⟨columns, htable⟩, hvalid⟩ := source_checked h.scope_eq
    rw [h.source]
    exact ⟨hvalid, .table htable⟩
  · exact joinClauses_checked h.scope_eq h.joins j hj name hname
  · exact references_checked h.scope_eq h.groupBy ref href name hname
  · exact sortTerms_checked h.scope_eq h.items h.orderBy t ht name hname

/-- No name that a compiled statement quotes is invalid. -/
theorem CompilesTo.names_valid (h : q.CompilesTo settings catalog scope s) :
    ∀ name ∈ s.names, Name.isValid name = true :=
  fun name hname => (h.names_checked name hname).1

/-- The expressions in a statement are those of the computed columns. -/
theorem CompilesTo.expressions_eq (h : q.CompilesTo settings catalog scope s) :
    s.items.filterMap SelectItem.expression? =
      q.expressionColumns.map ExpressionColumn.expression := by
  obtain ⟨columns, expressions, hc, he, hitems⟩ := selectItems_eq_ok_iff.mp h.items
  -- selected columns hold no expression
  have hcolumns : columns.filterMap SelectItem.expression? = [] := by
    rw [columnItems_eq_ok_iff] at hc
    rw [List.filterMap_eq_nil_iff]
    intro item hitem
    obtain ⟨c, -, hcitem⟩ := exists_of_mem_right hc hitem
    exact (ColumnSelection.item_facts hcitem).2.1
  rw [hitems, List.filterMap_append, hcolumns, expressionItems_eq he, List.filterMap_map]
  simp [Function.comp_def, SelectItem.expression?]

/-- The words of a validated expression can neither end the statement nor hide a part of it. -/
theorem CompilesTo.expression_accepted (h : q.CompilesTo settings catalog scope s)
    (hp : settings.expressionPolicy = .validated) :
    ∀ c ∈ q.expressionColumns, ∃ known, known ⊆ q.selectAliases ∧
      Expression.Accepts scope known 0 (Token.scan c.expression) := by
  intro c hc
  obtain ⟨-, known, hcheck, hknown⟩ := expressionColumns_checked h.items c hc
  rw [hp] at hcheck
  exact ⟨known, hknown, (Expression.validate_eq_ok_iff.mp hcheck).2⟩

/-- The words of a predicate leave no literal open. -/
theorem CompilesTo.predicate_closed (h : q.CompilesTo settings catalog scope s) :
    ∀ w ∈ words s.predicate.text, w.isUnclosed = false := by
  have hreads := (shows_predicate h.predicate).reads
  rw [hreads.words_eq]
  exact hreads.closed

/-- A compiled statement can be read clause by clause, if its expressions leave no literal open. -/
theorem CompilesTo.legible_of_closed (h : q.CompilesTo settings catalog scope s)
    (hclosed : ∀ c ∈ q.expressionColumns, ∀ w ∈ words c.expression, w.isUnclosed = false) :
    s.Legible where
  names := h.names_valid
  items := by
    intro item hitem text htext
    -- the expressions of the statement are those of the query
    have hmem : text ∈ q.expressionColumns.map ExpressionColumn.expression := by
      rw [← h.expressions_eq]
      exact List.mem_filterMap.mpr ⟨item, hitem, htext⟩
    obtain ⟨c, hc, rfl⟩ := List.mem_map.mp hmem
    exact hclosed c hc
  predicate := h.predicate_closed

/-- A compiled statement can be read clause by clause, if its expressions were validated or it has
none. -/
theorem CompilesTo.legible (h : q.CompilesTo settings catalog scope s)
    (hp : settings.expressionPolicy = .validated ∨ q.expressionColumns = []) : s.Legible := by
  refine h.legible_of_closed fun c hc w hw => ?_
  rcases hp with hp | hp
  · obtain ⟨known, -, haccepts⟩ := h.expression_accepted hp c hc
    obtain ⟨t, ht, rfl⟩ := List.mem_map.mp hw
    exact Word.isUnclosed_of_kind (haccepts.kind_ne t ht).2.2
  · rw [hp] at hc
    cases hc

end Query

end DashQuery
