import DashQuery.Proofs.Lists
import DashQuery.Statement.Compile

/-!
# What a successful step says

Compiling is a sequence of checks in `Except`.  For each check and each clause
this file says what its success means, as an equivalence, so that no later proof
opens the monadic code again.  Checks of a list in order are brought to
`List.mapM`, and its success is `List.Forall₂`.

## Key results

- `bind_eq_ok_iff`, `mapM_eq_ok_iff`: success of a sequence and of a list of checks
- `Scope.reference_eq_ok_iff`: when a name becomes a column reference
- `Query.compile_eq_ok_iff`: the clauses of a compiled statement
-/

namespace DashQuery

section Except

variable {ε α β : Type}

/-- A sequence succeeds if its first part does and the second does on its value. -/
theorem bind_eq_ok_iff {x : Except ε α} {f : α → Except ε β} {b : β} :
    (x >>= f) = .ok b ↔ ∃ a, x = .ok a ∧ f a = .ok b := by
  cases x with
  | error e =>
    -- a first part that fails gives no value to go on with
    constructor
    · intro h
      cases h
    · rintro ⟨_, h, _⟩
      cases h
  | ok a =>
    constructor
    · intro h
      exact ⟨a, rfl, h⟩
    · rintro ⟨a', ha, h⟩
      cases ha
      exact h

/-- A list of checks succeeds if each one does, value by value. -/
theorem mapM_eq_ok_iff {f : α → Except ε β} {xs : List α} {ys : List β} :
    xs.mapM f = .ok ys ↔ List.Forall₂ (fun x y => f x = .ok y) xs ys := by
  induction xs generalizing ys with
  | nil =>
    rw [List.mapM_nil, List.forall₂_nil_left_iff]
    exact ⟨fun h => (Except.ok.inj h).symm, fun h => h ▸ rfl⟩
  | cons x xs ih =>
    rw [List.mapM_cons, List.forall₂_cons_left_iff]
    simp only [bind_eq_ok_iff, ih]
    constructor
    -- the first value and those of the rest make the list
    · rintro ⟨y, hy, ys', hys, h⟩
      exact ⟨y, ys', hy, hys, (Except.ok.inj h).symm⟩
    · rintro ⟨y, ys', hy, hys, rfl⟩
      exact ⟨y, hy, ys', hys, rfl⟩

/-- A check that gives no value succeeds with the only one there is. -/
theorem unit_bind_eq_ok_iff {x : Except ε Unit} {f : Unit → Except ε β} {b : β} :
    (x >>= f) = .ok b ↔ x = .ok () ∧ f () = .ok b := by
  rw [bind_eq_ok_iff]
  constructor
  · rintro ⟨_, h, h'⟩
    exact ⟨h, h'⟩
  · rintro ⟨h, h'⟩
    exact ⟨(), h, h'⟩

/-- A value that is given back is the value. -/
theorem pure_eq_ok_iff {a b : α} : (pure a : Except ε α) = .ok b ↔ b = a :=
  ⟨fun h => (Except.ok.inj h).symm, fun h => h ▸ rfl⟩

end Except

/-! ## Names and references -/

/-- A name that may be missing is valid if it is there. -/
theorem Name.checkOptional_eq_ok_iff {name : Option String} :
    Name.checkOptional name = .ok () ↔ ∀ n ∈ name, Name.isValid n = true := by
  cases name with
  | none => simp [Name.checkOptional]
  | some n => simp [Name.checkOptional, Name.check_eq_ok_iff]

/-- A name becomes a reference if it is valid and legal; it is then written as resolved. -/
theorem Scope.reference_eq_ok_iff {scope : Scope} {name : String} {ref : ColumnRef} :
    scope.reference name = .ok ref ↔
      Name.isValid name = true ∧ scope.contains name = true ∧
        ref = ColumnRef.ofName (scope.resolve name) := by
  unfold Scope.reference
  rw [unit_bind_eq_ok_iff, unit_bind_eq_ok_iff, Name.check_eq_ok_iff, Scope.check_eq_ok_iff,
    pure_eq_ok_iff]

/-- A side of a join condition is a reference that is written with a table in front. -/
theorem Scope.joinReference_eq_ok_iff {scope : Scope} {name : String} {ref : ColumnRef} :
    scope.joinReference name = .ok ref ↔
      (Name.split? name).isSome = true ∧ scope.reference name = .ok ref := by
  unfold Scope.joinReference
  rw [unit_bind_eq_ok_iff, Name.check_eq_ok_iff]
  cases hs : Name.split? name with
  | none => simp
  | some parts =>
    simp only [Option.isNone_some, Bool.false_eq_true, if_false, Option.isSome_some, true_and,
      and_iff_right_iff_imp]
    -- the name was found valid before, as the reference asks for it again
    intro h
    exact (Scope.reference_eq_ok_iff.mp h).1

/-! ## The select list -/

/-- The selected columns are checked one by one. -/
theorem columnItems_eq_mapM (scope : Scope) (cs : List ColumnSelection) :
    columnItems scope cs = cs.mapM (ColumnSelection.item scope) := by
  induction cs with
  | nil => rfl
  | cons c cs ih => simp only [columnItems, List.mapM_cons, ih]

/-- The entries of the selected columns are those of each column by itself. -/
theorem columnItems_eq_ok_iff {scope : Scope} {cs : List ColumnSelection}
    {items : List SelectItem} :
    columnItems scope cs = .ok items ↔
      List.Forall₂ (fun c item => c.item scope = .ok item) cs items := by
  rw [columnItems_eq_mapM, mapM_eq_ok_iff]

/-- A selected column under an aggregate function. -/
theorem ColumnSelection.item_eq_ok_iff_of_some {scope : Scope} {c : ColumnSelection}
    {function : Aggregate} {item : SelectItem} (hf : c.aggregate = some function) :
    c.item scope = .ok item ↔
      ∃ ref, scope.reference c.column = .ok ref ∧ function.check scope c.column = .ok () ∧
        Name.isValid (c.aliasName.getD (function.defaultAlias c.column)) = true ∧
        item = .aggregate function ref (c.aliasName.getD (function.defaultAlias c.column)) := by
  unfold ColumnSelection.item
  simp only [hf, bind_eq_ok_iff, Unique.exists_iff, PUnit.default_eq_unit, Name.check_eq_ok_iff,
    pure_eq_ok_iff]

/-- A selected column without a function. -/
theorem ColumnSelection.item_eq_ok_iff_of_none {scope : Scope} {c : ColumnSelection}
    {item : SelectItem} (hf : c.aggregate = none) :
    c.item scope = .ok item ↔
      ∃ ref, scope.reference c.column = .ok ref ∧ (∀ n ∈ c.aliasName, Name.isValid n = true) ∧
        item = .column ref c.aliasName := by
  unfold ColumnSelection.item
  simp only [hf, bind_eq_ok_iff, Unique.exists_iff, PUnit.default_eq_unit,
    Name.checkOptional_eq_ok_iff, pure_eq_ok_iff]

/-- The entries of computed columns: each name is valid, each expression passed with the aliases
before it, and the entry holds both as they are. -/
theorem expressionItems_cons_eq_ok_iff {policy : ExpressionPolicy} {scope : Scope}
    {aliases : List String} {c : ExpressionColumn} {cs : List ExpressionColumn}
    {items : List SelectItem} :
    expressionItems policy scope aliases (c :: cs) = .ok items ↔
      Name.isValid c.aliasName = true ∧ policy.check scope aliases c.expression = .ok () ∧
        ∃ rest, expressionItems policy scope (c.aliasName :: aliases) cs = .ok rest ∧
          items = .expression c.expression c.aliasName :: rest := by
  rw [expressionItems]
  simp only [bind_eq_ok_iff, Unique.exists_iff, PUnit.default_eq_unit, Name.check_eq_ok_iff,
    pure_eq_ok_iff]

/-- The select list is the selected columns and behind them the computed ones, which may refer to
the aliases of the first. -/
theorem Query.selectItems_eq_ok_iff {policy : ExpressionPolicy} {scope : Scope} {q : Query}
    {items : List SelectItem} :
    q.selectItems policy scope = .ok items ↔
      ∃ columns expressions, columnItems scope q.columns = .ok columns ∧
        expressionItems policy scope (declaredAliases columns) q.expressionColumns =
          .ok expressions ∧ items = columns ++ expressions := by
  unfold Query.selectItems
  simp only [bind_eq_ok_iff, pure_eq_ok_iff]
  constructor
  · rintro ⟨columns, hc, expressions, he, rfl⟩
    exact ⟨columns, expressions, hc, he, rfl⟩
  · rintro ⟨columns, expressions, hc, he, rfl⟩
    exact ⟨columns, hc, expressions, he, rfl⟩

/-! ## Joins, grouping and sorting -/

/-- The joins are checked one by one. -/
theorem joinClauses_eq_mapM (scope : Scope) (joins : List Join) :
    joinClauses scope joins = joins.mapM (Join.clause scope) := by
  induction joins with
  | nil => rfl
  | cons join joins ih => simp only [joinClauses, List.mapM_cons, ih]

/-- The joins of a statement are those of each join by itself. -/
theorem joinClauses_eq_ok_iff {scope : Scope} {joins : List Join} {clauses : List JoinClause} :
    joinClauses scope joins = .ok clauses ↔
      List.Forall₂ (fun join clause => join.clause scope = .ok clause) joins clauses := by
  rw [joinClauses_eq_mapM, mapM_eq_ok_iff]

/-- A join keeps its kind, table and alias, and both sides of its condition are references. -/
theorem Join.clause_eq_ok_iff {scope : Scope} {join : Join} {clause : JoinClause} :
    join.clause scope = .ok clause ↔
      ∃ left right, scope.joinReference join.left = .ok left ∧
        scope.joinReference join.right = .ok right ∧
        clause = ⟨join.kind, join.table, join.aliasName, left, right⟩ := by
  unfold Join.clause
  simp only [bind_eq_ok_iff, pure_eq_ok_iff]
  constructor
  · rintro ⟨left, hl, right, hr, rfl⟩
    exact ⟨left, right, hl, hr, rfl⟩
  · rintro ⟨left, right, hl, hr, rfl⟩
    exact ⟨left, hl, right, hr, rfl⟩

/-- References are checked one by one. -/
theorem references_eq_mapM (scope : Scope) (names : List String) :
    references scope names = names.mapM scope.reference := by
  induction names with
  | nil => rfl
  | cons name names ih => simp only [references, List.mapM_cons, ih]

/-- References are those of each name by itself. -/
theorem references_eq_ok_iff {scope : Scope} {names : List String} {refs : List ColumnRef} :
    references scope names = .ok refs ↔
      List.Forall₂ (fun name ref => scope.reference name = .ok ref) names refs := by
  rw [references_eq_mapM, mapM_eq_ok_iff]

/-- Sort keys are checked one by one. -/
theorem sortTerms_eq_mapM (scope : Scope) (aliases : List String) (ks : List SortKey) :
    sortTerms scope aliases ks = ks.mapM (SortKey.term scope aliases) := by
  induction ks with
  | nil => rfl
  | cons k ks ih => simp only [sortTerms, List.mapM_cons, ih]

/-- The sort terms of a statement are those of each key by itself. -/
theorem sortTerms_eq_ok_iff {scope : Scope} {aliases : List String} {ks : List SortKey}
    {ts : List SortTerm} :
    sortTerms scope aliases ks = .ok ts ↔
      List.Forall₂ (fun k t => k.term scope aliases = .ok t) ks ts := by
  rw [sortTerms_eq_mapM, mapM_eq_ok_iff]

/-- A sort key is an alias, quoted whole, or a column that is no alias. -/
theorem SortKey.term_eq_ok_iff {scope : Scope} {aliases : List String} {k : SortKey}
    {t : SortTerm} :
    k.term scope aliases = .ok t ↔
      SortDirection.parse k.direction = .ok t.direction ∧ Name.isValid k.column = true ∧
        if k.column ∈ aliases then t.ref = .bare k.column
        else scope.reference k.column = .ok t.ref := by
  unfold SortKey.term
  simp only [bind_eq_ok_iff, Unique.exists_iff, PUnit.default_eq_unit, Name.check_eq_ok_iff,
    List.contains_iff_mem]
  constructor
  · rintro ⟨d, hd, hv, h⟩
    split at h
    · next hmem =>
      -- an alias is taken as it is
      rw [pure_eq_ok_iff] at h
      subst h
      exact ⟨hd, hv, by rw [if_pos hmem]⟩
    · next hmem =>
      -- a key that is no alias has to be a legal column
      obtain ⟨ref, href, h⟩ := bind_eq_ok_iff.mp h
      rw [pure_eq_ok_iff] at h
      subst h
      exact ⟨hd, hv, by rw [if_neg hmem]; exact href⟩
  · -- either way the direction and the name were checked before
    rintro ⟨hd, hv, h⟩
    refine ⟨t.direction, hd, hv, ?_⟩
    split at h
    · next hmem =>
      rw [if_pos hmem, pure_eq_ok_iff, ← h]
    · next hmem =>
      rw [if_neg hmem]
      exact bind_eq_ok_iff.mpr ⟨t.ref, h, pure_eq_ok_iff.mpr rfl⟩

/-! ## The statement -/

/-- How a statement comes from a query: clause by clause over one scope. -/
structure Query.CompilesTo (settings : Settings) (catalog : Catalog) (q : Query) (scope : Scope)
    (s : SelectStatement) : Prop where
  scope_eq : q.scope catalog = .ok scope
  items : q.selectItems settings.expressionPolicy scope = .ok s.items
  source : s.source = q.sourceTable
  joins : joinClauses scope q.joins = .ok s.joins
  predicate : q.predicate settings.filterBounds scope = .ok s.predicate
  groupBy : references scope q.groupBy = .ok s.groupBy
  orderBy : sortTerms scope (declaredAliases s.items) q.orderBy = .ok s.orderBy
  limit : s.limit = settings.effectiveLimit q.limit
  offset : checkOffset q.offset = .ok s.offset

/-- A query compiles to a statement if each of its clauses does, all over one scope. -/
theorem Query.compile_eq_ok_iff {settings : Settings} {catalog : Catalog} {q : Query}
    {s : SelectStatement} :
    q.compile settings catalog = .ok s ↔ ∃ scope, q.CompilesTo settings catalog scope s := by
  unfold Query.compile
  simp only [bind_eq_ok_iff, pure_eq_ok_iff]
  constructor
  · -- clause by clause, in the order of the checks
    rintro ⟨scope, hscope, items, hitems, joins, hjoins, predicate, hpredicate, groupBy, hgroup,
      orderBy, horder, offset, hoffset, rfl⟩
    exact ⟨scope, hscope, hitems, rfl, hjoins, hpredicate, hgroup, horder, rfl, hoffset⟩
  · -- source and limit are taken over without a check
    rintro ⟨scope, h⟩
    refine ⟨scope, h.scope_eq, s.items, h.items, s.joins, h.joins, s.predicate, h.predicate,
      s.groupBy, h.groupBy, s.orderBy, h.orderBy, s.offset, h.offset, ?_⟩
    rw [← h.source, ← h.limit]

end DashQuery
