import DashQuery.Proofs.Filter.Hollow
import DashQuery.Proofs.Statement.Vocabulary

/-!
# Values stay out of statement text

Two queries that are the same when their filters are hollow differ only in the
values of their conditions.  If both compile, they compile to one text, and a
value changes only what is bound in the places of its own condition.

## Key results

- `Query.CompilesTo.text_eq`: queries that differ only in their values have one text
- `Query.compile_text_eq`: and they bind the same where their conditions do
-/

namespace DashQuery

/-- A statement's text is that of another one that differs only in the values it binds. -/
theorem SelectStatement.text_congr {s t : SelectStatement} {predicate : BoundText}
    (h : s = { t with predicate := predicate }) (htext : predicate.text = t.predicate.text) :
    s.text = t.text := by
  have hwhere : s.whereClause = t.whereClause := by
    rw [h]
    show (if predicate.text.isEmpty then [] else ["WHERE " ++ predicate.text]) = _
    rw [htext]
    rfl
  rw [text, clauses, hwhere, h]
  rfl

namespace Query

/-- The query with hollow filters. -/
def hollow (q : Query) : Query := { q with filters := q.filters.map Filters.hollow }

/-- For each value that the filters of a query bind, the place of its condition. -/
def valueOwners (q : Query) : List Nat := blockIndices Condition.boundValues 0 q.conditions

variable {settings : Settings} {catalog : Catalog} {bounds : FilterBounds} {scope : Scope}
  {q r : Query} {s t : SelectStatement} {a b : BoundText}

/-- The conditions of a query without values are its conditions without values. -/
theorem conditions_hollow (q : Query) :
    q.hollow.conditions = q.conditions.map Condition.hollow := by
  unfold conditions hollow
  cases q.filters with
  | none => rfl
  | some filters =>
    simp only [Option.map_some, Filters.toGroup_hollow]
    exact filters.toGroup.leaves_hollow

/-- The filters of queries that differ only in their values have one text. -/
theorem text_predicate_eq (h : q.hollow = r.hollow) (hq : q.predicate bounds scope = .ok a)
    (hr : r.predicate bounds scope = .ok b) : a.text = b.text := by
  have hfilters : q.filters.map Filters.hollow = r.filters.map Filters.hollow :=
    congrArg Query.filters h
  unfold predicate at hq hr
  cases hqf : q.filters with
  -- without a filter in one query there is none in the other
  | none =>
    rw [hqf, Option.map_none, eq_comm, Option.map_eq_none_iff] at hfilters
    simp only [hqf] at hq
    simp only [hfilters] at hr
    rw [← Except.ok.inj hq, ← Except.ok.inj hr]
  -- filters of one shape
  | some filters =>
    rw [hqf, Option.map_some, eq_comm, Option.map_eq_some_iff] at hfilters
    obtain ⟨filters', hrf, hfilters⟩ := hfilters
    simp only [hqf] at hq
    simp only [hrf] at hr
    refine FilterGroup.text_predicate_eq ?_ hq hr
    rw [← Filters.toGroup_hollow, ← Filters.toGroup_hollow, hfilters]

/-- Queries that differ only in their values differ only in their filters. -/
theorem exists_filters (h : q.hollow = r.hollow) :
    ∃ filters, r = { q with filters := filters } := by
  refine ⟨r.filters, ?_⟩
  cases q
  cases r
  simp only [hollow, Query.mk.injEq] at h ⊢
  simp [h]

/-- Queries that differ only in their values are compiled over one scope. -/
theorem scope_eq (h : q.hollow = r.hollow) : q.scope catalog = r.scope catalog := by
  obtain ⟨filters, rfl⟩ := exists_filters h
  rfl

/-- Queries that differ only in their values compile to one text. -/
theorem CompilesTo.text_eq (h : q.hollow = r.hollow)
    (hq : q.CompilesTo settings catalog scope s) (hr : r.CompilesTo settings catalog scope t) :
    s.text = t.text := by
  have hpredicate := text_predicate_eq h hq.predicate hr.predicate
  -- all but the filters is the same in both queries, and so is what is made of it
  obtain ⟨filters, rfl⟩ := exists_filters h
  have hitems : s.items = t.items := Except.ok.inj (hq.items.symm.trans hr.items)
  have horder : s.orderBy = t.orderBy :=
    Except.ok.inj (hq.orderBy.symm.trans (hitems ▸ hr.orderBy))
  have hsame : s = { t with predicate := s.predicate } := by
    cases s
    cases t
    simp only [SelectStatement.mk.injEq, true_and]
    exact ⟨hitems, hq.source.trans hr.source.symm, Except.ok.inj (hq.joins.symm.trans hr.joins),
      Except.ok.inj (hq.groupBy.symm.trans hr.groupBy), horder, hq.limit.trans hr.limit.symm,
      Except.ok.inj (hq.offset.symm.trans hr.offset)⟩
  exact SelectStatement.text_congr hsame hpredicate

/-- One by one, the conditions of such queries differ only in their values and bind as many. -/
theorem CompilesTo.forall₂_conditions (h : q.hollow = r.hollow)
    (hq : q.CompilesTo settings catalog scope s) (hr : r.CompilesTo settings catalog scope t) :
    List.Forall₂ (fun c d => c.hollow = d.hollow ∧ c.boundValues.length = d.boundValues.length)
      q.conditions r.conditions := by
  have hmap : q.conditions.map Condition.hollow = r.conditions.map Condition.hollow := by
    rw [← conditions_hollow, ← conditions_hollow, h]
  rw [← List.forall₂_eq_eq_eq, List.forall₂_map_left_iff, List.forall₂_map_right_iff,
    List.forall₂_iff_zip] at hmap
  refine List.forall₂_iff_zip.mpr ⟨hmap.1, fun {c d} hmem => ⟨hmap.2 hmem, ?_⟩⟩
  -- both conditions have predicates, so each binds what its operator takes
  obtain ⟨hc, hd⟩ := List.of_mem_zip hmem
  obtain ⟨a, ha⟩ := conditions_checked hq.predicate c hc
  obtain ⟨b, hb⟩ := conditions_checked hr.predicate d hd
  exact (Condition.predicate_agrees (hmap.2 hmem) ha hb).2

/-- The values of conditions never reach statement text.  Queries that differ only in them, with
lists of one length in membership tests, compile to one text and to as many parameters, the bound
values of the conditions in order.  Where the parameters differ, they belong to conditions at one
place of both queries, and the values of these differ. -/
theorem compile_text_eq (h : q.hollow = r.hollow) (hq : q.compile settings catalog = .ok s)
    (hr : r.compile settings catalog = .ok t) :
    s.text = t.text ∧ s.params.length = t.params.length ∧
      s.params = q.conditions.flatMap Condition.boundValues ∧
      t.params = r.conditions.flatMap Condition.boundValues ∧
      ∀ n : Nat, s.params[n]? ≠ t.params[n]? → ∃ (i : Nat) (c d : Condition),
        q.valueOwners[n]? = some i ∧ r.valueOwners[n]? = some i ∧
          q.conditions[i]? = some c ∧ r.conditions[i]? = some d ∧ c.value ≠ d.value := by
  obtain ⟨scope, hq⟩ := compile_eq_ok_iff.mp hq
  obtain ⟨scope', hr⟩ := compile_eq_ok_iff.mp hr
  -- the filters play no part in the scope
  obtain rfl : scope = scope' :=
    Except.ok.inj (hq.scope_eq.symm.trans ((scope_eq h).trans hr.scope_eq))
  -- condition by condition: the same but for the value, and as many bound values
  have hagree := hq.forall₂_conditions h hr
  refine ⟨hq.text_eq h hr, ?_, hq.params_eq, hr.params_eq, fun n hne => ?_⟩
  · rw [hq.params_eq, hr.params_eq]
    exact length_flatMap_eq hagree fun _ _ hlength => hlength.2
  · rw [hq.params_eq, hr.params_eq] at hne
    -- the parameter belongs to one block of values, and that to one condition of each query
    obtain ⟨i, c, d, hi, hi', hc, hd, ⟨hhollow, -⟩, hdiffer⟩ :=
      exists_block_ne hagree (fun _ _ hlength => hlength.2) hne 0
    rw [Nat.zero_add] at hi hi'
    refine ⟨i, c, d, hi, hi', hc, hd, fun hvalue => hdiffer ?_⟩
    rw [Condition.eq_of_hollow_eq hhollow hvalue]

/-- The sample with other values. -/
def revaluedSample : Query :=
  { sample with filters := some (.list [.condition ⟨"city", "IN", .arr [.int 7, .str "b"]⟩,
    .group .or [.condition ⟨"id", "BETWEEN", .arr [.int 1, .bool true]⟩, .group .and []]]) }

/-- Other values in the sample, among them one for a truth value. -/
theorem sample_text_eq : ∃ s t, sample.compile Settings.default sampleCatalog = .ok s ∧
    revaluedSample.compile Settings.default sampleCatalog = .ok t ∧ s.text = t.text ∧
      s.params = [.text "a?", .text "b", .int 1, .int 9] ∧
      t.params = [.int 7, .text "b", .int 1, .bool true] ∧
      sample.valueOwners = [0, 0, 1, 1] := by
  have hq : ∃ s, sample.compile Settings.default sampleCatalog = .ok s := ⟨_, rfl⟩
  have hr : ∃ t, revaluedSample.compile Settings.default sampleCatalog = .ok t := ⟨_, rfl⟩
  obtain ⟨s, hq⟩ := hq
  obtain ⟨t, hr⟩ := hr
  have hsame : sample.hollow = revaluedSample.hollow := rfl
  obtain ⟨htext, -, hs, ht, -⟩ := compile_text_eq hsame hq hr
  exact ⟨s, t, hq, hr, htext, hs, ht, rfl⟩

end Query

end DashQuery
