import DashQuery.Facet
import DashQuery.Proofs.Filter.Strip
import DashQuery.Proofs.Statement.Vocabulary

/-!
# Compiling a facet

The facet of a column is a query of its own, made from a base query.  Where the
base compiles, so does the facet of every legal column, under both policies: the
tables are the same, the filter is what is left of the base's, and the selected
count and its aliases pass every check.

## Key results

- `Expression.check_count`: counting rows passes under both policies
- `Query.CompilesTo.facet`: the facet's statement, clause by clause
- `Query.compileFacet_preserves`: what a facet keeps of its base
-/

namespace DashQuery

namespace SelectStatement

/-- The statement that counts the values of a column over the tables of another statement. -/
def countBy (s : SelectStatement) (ref : ColumnRef) (predicate : BoundText) (limit : UInt64) :
    SelectStatement where
  items := [.column ref (some valueAlias), .expression "COUNT(*)" countAlias]
  source := s.source
  joins := s.joins
  predicate := predicate
  groupBy := [ref]
  orderBy := [⟨.bare countAlias, .descending⟩, ⟨.bare valueAlias, .ascending⟩]
  limit := limit
  offset := none

/-- The clauses of such a statement; the column is written twice and the tables as before. -/
theorem clauses_countBy (s : SelectStatement) (ref : ColumnRef) (predicate : BoundText)
    (limit : UInt64) :
    (s.countBy ref predicate limit).clauses =
      ("SELECT " ++ ref.text ++ " AS \"value\", COUNT(*) AS \"cnt\"") :: s.tableClauses ++
        (s.countBy ref predicate limit).whereClause ++
        ["GROUP BY " ++ ref.text, "ORDER BY \"cnt\" DESC, \"value\" ASC",
          "LIMIT " ++ toString limit.toNat] := by
  -- the select list is the column and the count
  have hitems : (s.countBy ref predicate limit).itemsText =
      ref.text ++ " AS \"value\", COUNT(*) AS \"cnt\"" := by
    show ref.text ++ " AS " ++ Name.quote valueAlias ++ ", " ++
      ("COUNT(*)" ++ " AS " ++ Name.quote countAlias) = _
    rw [String.append_assoc, String.append_assoc, String.append_assoc]
    rfl
  have hgroup : listClause "GROUP BY" [ref.text] = ["GROUP BY " ++ ref.text] := by
    show ["GROUP BY" ++ " " ++ ref.text] = _
    rfl
  have horder : listClause "ORDER BY" ((s.countBy ref predicate limit).orderBy.map SortTerm.text) =
      ["ORDER BY \"cnt\" DESC, \"value\" ASC"] := rfl
  rw [clauses, hitems, horder]
  simp [countBy, tableClauses, offsetClause, hgroup, String.append_assoc]

end SelectStatement

/-- Counting rows passes under both policies, whatever is in scope. -/
theorem Expression.check_count (policy : ExpressionPolicy) (scope : Scope)
    (aliases : List String) : policy.check scope aliases "COUNT(*)" = .ok () := by
  have hscan : Token.scan "COUNT(*)" = [⟨.identifier, "COUNT", 0⟩, ⟨.leftParen, "(", 5⟩,
      ⟨.operator, "*", 6⟩, ⟨.rightParen, ")", 7⟩] := by decide +kernel
  cases policy with
  | trusted =>
    show Expression.checkPlaceholders "COUNT(*)" = .ok ()
    rw [checkPlaceholders, hscan]
    rfl
  | validated =>
    show Expression.validate scope aliases "COUNT(*)" = .ok ()
    rw [validate_eq_ok_iff, hscan]
    refine ⟨List.cons_ne_nil _ _, ?_⟩
    -- the call of a known function, and the star in its parentheses
    exact .call rfl (by decide) rfl (by decide)
      (.leftParen rfl (.free (by decide) (.rightParen rfl .done)))

namespace Query

variable {settings : Settings} {catalog : Catalog} {scope : Scope} {base : Query}
  {s : SelectStatement} {target : String} {ref : ColumnRef}

/-- A facet has the tables of its base. -/
theorem scope_facet (base : Query) (target : String) (catalog : Catalog) :
    (base.facet target).scope catalog = base.scope catalog := rfl

/-- The filters of a facet are those of its base but for the ones on the column. -/
theorem conditions_facet (base : Query) (target : String) :
    (base.facet target).conditions =
      base.conditions.filter fun c => !sameColumn base.sourceTable c.column target := by
  unfold conditions facet
  cases base.filters with
  | none => rfl
  | some filters => exact filters.toGroup.leaves_strip base.sourceTable target

/-- A filter that compiles does so without the conditions on the target. -/
theorem predicate_facet {bounds : FilterBounds} {b : BoundText}
    (h : base.predicate bounds scope = .ok b) (target : String) :
    ∃ b', (base.facet target).predicate bounds scope = .ok b' := by
  unfold predicate at h ⊢
  unfold facet
  cases hf : base.filters with
  | none => exact ⟨.empty, rfl⟩
  | some filters =>
    simp only [hf] at h
    exact FilterGroup.predicate_strip h

/-- The select list of a facet is the target and the count. -/
theorem selectItems_facet (policy : ExpressionPolicy) (href : scope.reference target = .ok ref) :
    (base.facet target).selectItems policy scope =
      .ok [.column ref (some valueAlias), .expression "COUNT(*)" countAlias] := by
  -- the target under a fixed alias
  have hcolumn : columnItems scope [⟨target, some valueAlias, none⟩] =
      .ok [.column ref (some valueAlias)] := by
    refine columnItems_eq_ok_iff.mpr (.cons ?_ .nil)
    refine (ColumnSelection.item_eq_ok_iff_of_none rfl).mpr ⟨ref, href, ?_, rfl⟩
    rintro n hn
    rw [← Option.some.inj hn]
    decide
  -- the count passes under any policy
  have hcount : ∀ aliases, expressionItems policy scope aliases [⟨"COUNT(*)", countAlias⟩] =
      .ok [.expression "COUNT(*)" countAlias] := fun aliases =>
    expressionItems_cons_eq_ok_iff.mpr
      ⟨by decide, Expression.check_count policy scope aliases, [], rfl, rfl⟩
  exact selectItems_eq_ok_iff.mpr ⟨_, _, hcolumn, hcount _, rfl⟩

/-- A facet compiles where its base does, to a count over the base's tables. -/
theorem CompilesTo.facet (h : base.CompilesTo settings catalog scope s)
    (href : scope.reference target = .ok ref) (policy : ExpressionPolicy) :
    ∃ predicate, (base.facet target).CompilesTo { settings with expressionPolicy := policy } catalog
      scope (s.countBy ref predicate (settings.effectiveLimit none)) := by
  obtain ⟨predicate, hpredicate⟩ := predicate_facet h.predicate target
  refine ⟨predicate, ?_⟩
  exact {
    scope_eq := (scope_facet base target catalog).trans h.scope_eq
    items := selectItems_facet policy href
    source := h.source
    joins := h.joins
    predicate := hpredicate
    groupBy := references_eq_ok_iff.mpr (.cons href .nil)
    -- both sort keys are aliases of the select list
    orderBy := rfl
    limit := rfl
    offset := rfl }

/-- A facet of a legal column compiles where its base does, under either policy.  It binds what its
base binds but for the values of the conditions on the column, it names the base's tables in the
same text, and it selects and groups by the column in one and the same text. -/
theorem compileFacet_preserves (h : base.compile settings catalog = .ok s)
    (hscope : base.scope catalog = .ok scope) (hvalid : Name.isValid target = true)
    (hlegal : scope.contains target = true) (policy : ExpressionPolicy) :
    ∃ f, base.compileFacet { settings with expressionPolicy := policy } catalog target = .ok f ∧
      s.params = base.conditions.flatMap Condition.boundValues ∧
      f.params = (base.conditions.filter fun c =>
        !sameColumn base.sourceTable c.column target).flatMap Condition.boundValues ∧
      f.tableClauses = s.tableClauses ∧
      ∃ ref : ColumnRef, ref = .ofName (scope.resolve target) ∧ f.clauses =
        ("SELECT " ++ ref.text ++ " AS \"value\", COUNT(*) AS \"cnt\"") :: s.tableClauses ++
          f.whereClause ++ ["GROUP BY " ++ ref.text, "ORDER BY \"cnt\" DESC, \"value\" ASC",
            "LIMIT " ++ toString f.limit.toNat] := by
  obtain ⟨known, hc⟩ := compile_eq_ok_iff.mp h
  have hknown : known = scope := Except.ok.inj (hc.scope_eq.symm.trans hscope)
  subst hknown
  have href := Scope.reference_eq_ok_iff.mpr ⟨hvalid, hlegal, rfl⟩
  -- the facet runs through the stages of its base
  obtain ⟨predicate, hf⟩ := hc.facet href policy
  refine ⟨_, compile_eq_ok_iff.mpr ⟨known, hf⟩, hc.params_eq, ?_, rfl, _, rfl,
    s.clauses_countBy _ _ _⟩
  rw [← conditions_facet]
  exact hf.params_eq

/-- The sample with two conditions on the city, one of them alone in its group. -/
def filteredSample : Query :=
  { sample with filters := some (.list [.condition ⟨"orders.city", "=", .str "a"⟩,
    .group .or [.condition ⟨"id", "BETWEEN", .arr [.int 1, .int 9]⟩,
      .group .and [.condition ⟨"city", "LIKE", .str "b%"⟩]]]) }

/-- Of the values of the sample those of the target are left out. -/
theorem filteredSample_facet : ∃ s f,
    filteredSample.compile Settings.default sampleCatalog = .ok s ∧
      filteredSample.compileFacet { Settings.default with expressionPolicy := .validated }
        sampleCatalog "city" = .ok f ∧
      s.params = [.text "a", .int 1, .int 9, .text "b%"] ∧ f.params = [.int 1, .int 9] ∧
      f.tableClauses = s.tableClauses := by
  have h : ∃ s, filteredSample.compile Settings.default sampleCatalog = .ok s := ⟨_, rfl⟩
  have hscope : ∃ scope, filteredSample.scope sampleCatalog = .ok scope ∧
      scope.contains "city" = true := ⟨_, rfl, rfl⟩
  obtain ⟨s, hs⟩ := h
  obtain ⟨scope, hscope, hlegal⟩ := hscope
  obtain ⟨f, hf, hbase, hleft, htables, -⟩ :=
    compileFacet_preserves hs hscope (by decide) hlegal .validated
  exact ⟨s, f, hs, hf, hbase, hleft, htables⟩

end Query

end DashQuery
