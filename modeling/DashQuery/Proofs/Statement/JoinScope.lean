import DashQuery.Proofs.Statement.References

/-!
# What a join's condition may refer to

The condition of a join is checked against the columns of all tables of the query, those of
later joins among them.  So what it refers to is there, but perhaps only further on in the
statement.

## Key results

- `Query.hasColumnWithin_iff`: what the first joins provide, and the later ones do not
- `Query.joinReference_within`: a checked reference has its column in one of the tables
- `Query.compile_joinScope`: what the conditions of a compiled statement refer to, and when
  that comes before them
-/

namespace DashQuery

/-- The name under which the table of a reference goes. -/
def ColumnRef.qualifier? : ColumnRef → Option String
  | bare _ => none
  | qualified qualifier _ => some qualifier

/-- The columns that the condition of a join compares. -/
def JoinClause.compared (j : JoinClause) : List ColumnRef := [j.left, j.right]

/-- A name is split where a table's name ends, if no dot comes before and it is split at all. -/
theorem ColumnRef.ofName_qualified {qualifier column : String} (hdot : '.' ∉ qualifier.toList)
    (hsplit : (Name.split? (Scope.qualified qualifier column)).isSome = true) :
    ofName (Scope.qualified qualifier column) = .qualified qualifier column := by
  obtain ⟨⟨before, behind⟩, hparts⟩ := Option.isSome_iff_exists.mp hsplit
  obtain ⟨heq, -, -, hbefore⟩ := Name.eq_of_split? hparts
  obtain ⟨rfl, rfl⟩ := Scope.qualified_inj_of_dotless hdot hbefore heq
  rw [ofName, hparts]

namespace Query

variable {settings : Settings} {catalog : Catalog} {q : Query} {scope : Scope}
  {s : SelectStatement} {name : String} {ref : ColumnRef} {n : Nat}

/-- The source table or one of the first `n` joined ones goes under the qualifier of the reference
and has its column. -/
def HasColumnWithin (catalog : Catalog) (q : Query) (n : Nat) (ref : ColumnRef) : Prop :=
  ∃ qualifier column, ref = .qualified qualifier column ∧
    ((qualifier = q.sourceTable ∧ ∃ c ∈ catalog.columnsOf q.sourceTable, c.name = column) ∨
      ∃ join ∈ q.joins.take n, qualifier = join.qualifier ∧
        ∃ c ∈ catalog.columnsOf join.table, c.name = column)

/-- The condition of every join uses columns of the source table, of the joins before it and of its
own table. -/
def JoinsInScope (catalog : Catalog) (q : Query) (s : SelectStatement) : Prop :=
  ∀ (i : Nat) (clause : JoinClause), s.joins[i]? = some clause →
    ∀ ref ∈ clause.compared, q.HasColumnWithin catalog (i + 1) ref

/-- No dot stands in the way of splitting a legal name: no table goes under a name with a dot, and
no column of the source table is called like one behind the name of its table. -/
structure HasPlainNames (catalog : Catalog) (q : Query) : Prop where
  tables : ∀ table ∈ q.tableNames, '.' ∉ table.toList
  columns : ∀ c ∈ catalog.columnsOf q.sourceTable, Name.split? c.name = none

/-- The tables within which a column is found come before the others. -/
theorem HasColumnWithin.qualifier_mem (h : q.HasColumnWithin catalog n ref) :
    ∃ table ∈ q.tableNames.take (n + 1), ref.qualifier? = some table := by
  obtain ⟨qualifier, column, rfl, ⟨rfl, -⟩ | ⟨join, hjoin, rfl, -⟩⟩ := h
  · exact ⟨_, List.mem_cons_self, rfl⟩
  · refine ⟨_, ?_, rfl⟩
    rw [tableNames, List.take_succ_cons, ← List.map_take]
    exact List.mem_cons_of_mem _ (List.mem_map_of_mem hjoin)

/-- A column is found within the first tables exactly if it is found at all and its table is none of
the later ones. -/
theorem hasColumnWithin_iff (h : q.scope catalog = .ok scope) :
    q.HasColumnWithin catalog n ref ↔ q.HasColumnWithin catalog q.joins.length ref ∧
      ∀ join ∈ q.joins.drop n, ref.qualifier? ≠ some join.qualifier := by
  constructor
  · intro hwithin
    constructor
    · obtain ⟨qualifier, column, rfl, hsource | ⟨join, hjoin, hcolumn⟩⟩ := hwithin
      · exact ⟨qualifier, column, rfl, .inl hsource⟩
      · refine ⟨qualifier, column, rfl, .inr ⟨join, ?_, hcolumn⟩⟩
        rw [List.take_length]
        exact List.mem_of_mem_take hjoin
    · intro join hjoin heq
      obtain ⟨table, htable, hqualifier⟩ := hwithin.qualifier_mem
      obtain rfl : join.qualifier = table := Option.some.inj (heq.symm.trans hqualifier)
      -- the tables go under distinct names, so no later one goes under this one
      refine List.disjoint_take_drop (nodup_tableNames h) le_rfl htable ?_
      rw [tableNames, List.drop_succ_cons, ← List.map_drop]
      exact List.mem_map_of_mem hjoin
  · rintro ⟨⟨qualifier, column, rfl, hsource | ⟨join, hjoin, rfl, hcolumn⟩⟩, hlater⟩
    · exact ⟨qualifier, column, rfl, .inl hsource⟩
    · rw [List.take_length, ← List.take_append_drop n q.joins, List.mem_append] at hjoin
      -- the table is that of a join, and of none of the later ones
      have hfirst := hjoin.resolve_right fun hdrop => hlater join hdrop rfl
      exact ⟨join.qualifier, column, rfl, .inr ⟨join, hfirst, rfl, hcolumn⟩⟩

/-- A side of a condition that passed its check has its column in one of the tables. -/
theorem joinReference_within (h : q.scope catalog = .ok scope) (hplain : q.HasPlainNames catalog)
    (href : scope.joinReference name = .ok ref) :
    q.HasColumnWithin catalog q.joins.length ref := by
  obtain ⟨hsplit, href⟩ := Scope.joinReference_eq_ok_iff.mp href
  obtain ⟨-, hlegal, rfl⟩ := Scope.reference_eq_ok_iff.mp href
  have hbare : ∀ c ∈ catalog.columnsOf q.sourceTable, c.name ≠ name := by
    rintro c hc rfl
    rw [hplain.columns c hc] at hsplit
    cases hsplit
  -- only bare names are written in another form
  rw [(resolve_scope h name).2 fun ⟨⟨c, hc, heq⟩, _⟩ => hbare c hc heq]
  obtain ⟨⟨qualifier?, c⟩, hd, rfl⟩ := (contains_scope_iff h).mp hlegal
  -- the side is qualified, so it is split into the table's name and the column's
  rcases mem_declared_iff.mp hd with ⟨hc, rfl | rfl⟩ | ⟨join, hjoin, hc, rfl⟩
  · exact absurd rfl (hbare c hc)
  · have hdot := hplain.tables q.sourceTable List.mem_cons_self
    exact ⟨_, _, ColumnRef.ofName_qualified hdot hsplit, .inl ⟨rfl, c, hc, rfl⟩⟩
  · have hdot := hplain.tables join.qualifier
      (List.mem_cons_of_mem _ (List.mem_map_of_mem hjoin))
    refine ⟨_, _, ColumnRef.ofName_qualified hdot hsplit, .inr ⟨join, ?_, rfl, c, hc, rfl⟩⟩
    rwa [List.take_length]

/-- What the conditions of joins refer to.  The joins of a compiled statement are those of the
query, in order.  Both sides of each condition are made from the names of columns that the source
table or any of the joins declares.  If no dot stands in the way of splitting these, each side has
its column in one of the tables, and this is the source table, the table of the same join or of one
before it exactly if no later join goes under the side's qualifier. -/
theorem compile_joinScope (h : q.compile settings catalog = .ok s) :
    List.Forall₂ (fun join clause => clause.kind = join.kind ∧ clause.table = join.table ∧
      clause.aliasName = join.aliasName) q.joins s.joins ∧
    ∀ (i : Nat) (clause : JoinClause), s.joins[i]? = some clause → ∀ ref ∈ clause.compared,
      (∃ d ∈ q.declared catalog, ref = .ofName d.name) ∧
      (q.HasPlainNames catalog →
        q.HasColumnWithin catalog q.joins.length ref ∧
        (q.HasColumnWithin catalog (i + 1) ref ↔
          ∀ join ∈ q.joins.drop (i + 1), ref.qualifier? ≠ some join.qualifier)) := by
  obtain ⟨scope, hc⟩ := compile_eq_ok_iff.mp h
  constructor
  · -- each clause is made from the join at its place
    refine (joinClauses_eq_ok_iff.mp hc.joins).imp fun join clause hclause => ?_
    obtain ⟨left, right, -, -, rfl⟩ := Join.clause_eq_ok_iff.mp hclause
    exact ⟨rfl, rfl, rfl⟩
  · -- the two sides of a condition
    intro i clause hi ref href
    obtain ⟨name, hname⟩ := hc.joinSides_checked (List.mem_of_getElem? hi) href
    refine ⟨reference_declared hc.scope_eq (Scope.joinReference_eq_ok_iff.mp hname).2, ?_⟩
    intro hplain
    have hfound := joinReference_within hc.scope_eq hplain hname
    exact ⟨hfound, by rw [hasColumnWithin_iff hc.scope_eq, and_iff_right hfound]⟩

/-- Tables for a chain of joins. -/
def chainCatalog : Catalog :=
  (Catalog.empty.insert "orders" [⟨"user_id", .integer⟩]).insert "users" [⟨"id", .integer⟩]

/-- A join whose condition refers to the one after it. -/
def forwardSample : Query where
  sourceTable := "orders"
  columns := [⟨"user_id", none, none⟩]
  expressionColumns := []
  joins := [⟨.left, "users", some "u", "v.id", "u.id"⟩,
    ⟨.left, "users", some "v", "orders.user_id", "v.id"⟩]
  filters := none
  groupBy := []
  orderBy := []
  limit := none
  offset := none

/-- The first join of the sample refers to the table of the second one. -/
theorem forwardSample_ahead : ∃ s,
    forwardSample.compile Settings.default chainCatalog = .ok s ∧
      ¬forwardSample.JoinsInScope chainCatalog s := by
  have h : ∃ s clause, forwardSample.compile Settings.default chainCatalog = .ok s ∧
      s.joins[0]? = some clause ∧ clause.left = .qualified "v" "id" := ⟨_, _, rfl, rfl, rfl⟩
  have hscope : ∃ scope, forwardSample.scope chainCatalog = .ok scope := ⟨_, rfl⟩
  obtain ⟨s, clause, hs, hclause, hleft⟩ := h
  obtain ⟨scope, hscope⟩ := hscope
  refine ⟨s, hs, fun hin => ?_⟩
  -- the qualifier is that of the second join
  have hwithin := hin 0 clause hclause clause.left List.mem_cons_self
  rw [hleft] at hwithin
  exact ((hasColumnWithin_iff hscope).mp hwithin).2 _ List.mem_cons_self rfl

/-- Its left side is in scope with the second join, its right side with the first. -/
theorem forwardSample_joinScope : ∃ s clause,
    forwardSample.compile Settings.default chainCatalog = .ok s ∧ s.joins[0]? = some clause ∧
      forwardSample.HasColumnWithin chainCatalog 2 clause.left ∧
      ¬forwardSample.HasColumnWithin chainCatalog 1 clause.left ∧
      forwardSample.HasColumnWithin chainCatalog 1 clause.right := by
  have h : ∃ s clause, forwardSample.compile Settings.default chainCatalog = .ok s ∧
      s.joins[0]? = some clause ∧ clause.left = .qualified "v" "id" ∧
      clause.right = .qualified "u" "id" := ⟨_, _, rfl, rfl, rfl, rfl⟩
  obtain ⟨s, clause, hs, hclause, hleft, hright⟩ := h
  -- no name holds a dot
  have hplain : forwardSample.HasPlainNames chainCatalog := ⟨by decide, by decide⟩
  have hsides := (compile_joinScope hs).2 0 clause hclause
  obtain ⟨hfound, hbefore⟩ := (hsides clause.left (by simp [JoinClause.compared])).2 hplain
  obtain ⟨-, hown⟩ := (hsides clause.right (by simp [JoinClause.compared])).2 hplain
  refine ⟨s, clause, hs, hclause, hfound, ?_, ?_⟩
  · rw [hbefore, hleft]
    decide
  · rw [hown, hright]
    decide

end Query

end DashQuery
