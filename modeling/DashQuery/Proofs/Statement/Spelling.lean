import DashQuery.Proofs.Statement.References

/-!
# One text for each name

A name is written in one way, whichever clause it stands in: between double quotes as
a whole, or in two parts if it is split at its first dot.  Quotes are read back as the
names between them, so what is written tells valid names apart.  Over the tables of a
query two names are written alike only where the compiler means one column by both: a
column of the source table that a joined one shares is written behind the source
table's name.

## Key results

- `ColumnRef.text_inj`: valid references are told apart by their texts
- `Query.resolve_eq_resolve_iff`: which names are written in one form
- `Query.CompilesTo.writesNames`: what the clauses of a compiled statement write for names
- `Query.names_written`: one text for each name, and which names share one
-/

namespace DashQuery

namespace ColumnRef

/-- References of the same words are the same. -/
theorem words_inj {r s : ColumnRef} (h : r.words = s.words) : r = s := by
  -- a quoted name is told by its content
  have hquoted : ∀ {a b : String}, Word.quoted a = Word.quoted b → a = b := fun {a b} hab => by
    rw [← Word.content_quoted a, hab, Word.content_quoted]
  cases r with
  | bare column =>
    cases s with
    | bare other =>
      rw [words, words, List.cons.injEq] at h
      rw [hquoted h.1]
    | qualified a b => simp [words] at h
  | qualified a b =>
    cases s with
    | bare other => simp [words] at h
    | qualified a' b' =>
      simp only [words, List.cons.injEq, true_and, and_true] at h
      rw [hquoted h.1, hquoted h.2]

/-- Valid references are told apart by their texts, which are read back as their words. -/
theorem text_inj {r s : ColumnRef} (hr : r.IsValid) (hs : s.IsValid) (h : r.text = s.text) :
    r = s := by
  refine words_inj ?_
  rw [← (reads_text hr).words_eq, h, (reads_text hs).words_eq]

/-- Valid names are told apart by the texts of their references. -/
theorem text_ofName_inj {a b : String} (ha : Name.isValid a = true) (hb : Name.isValid b = true)
    (h : (ofName a).text = (ofName b).text) : a = b := by
  have href := text_inj (isValid_ofName ha) (isValid_ofName hb) h
  rw [← name_ofName a, href, name_ofName]

end ColumnRef

/-- The text of a name in the statements over a scope. -/
def Scope.written (scope : Scope) (name : String) : String :=
  (ColumnRef.ofName (scope.resolve name)).text

/-- A reference is written as its name is written in the scope. -/
theorem Scope.text_reference {scope : Scope} {name : String} {ref : ColumnRef}
    (h : scope.reference name = .ok ref) : ref.text = scope.written name := by
  rw [(reference_eq_ok_iff.mp h).2.2, written]

/-- The text of a selected column, which is the argument of its function if it has one. -/
def ColumnSelection.written (scope : Scope) (c : ColumnSelection) : String :=
  match c.aggregate with
  | some function => function.name ++ "(" ++ scope.written c.column ++ ")"
  | none => scope.written c.column

/-- A selection is written as the body of its entry. -/
theorem ColumnSelection.written_eq_body {scope : Scope} {c : ColumnSelection} {item : SelectItem}
    (h : c.item scope = .ok item) : c.written scope = item.body := by
  unfold ColumnSelection.written
  cases hf : c.aggregate with
  | none =>
    obtain ⟨ref, href, -, rfl⟩ := (item_eq_ok_iff_of_none hf).mp h
    exact (Scope.text_reference href).symm
  | some function =>
    obtain ⟨ref, href, -, -, rfl⟩ := (item_eq_ok_iff_of_some hf).mp h
    rw [SelectItem.body, Scope.text_reference href]

namespace Query

variable {settings : Settings} {catalog : Catalog} {scope : Scope} {q : Query}
  {s : SelectStatement} {a b : String}

/-! ## Names that are written alike -/

/-- The one name is a column of the source table that a joined table shares, so that it is written
behind the source table's name; the other one is that form, and is written as it is. -/
structure IsWrittenFormOf (catalog : Catalog) (q : Query) (form name : String) : Prop where
  shared : q.IsShared catalog name
  form_eq : form = Scope.qualified q.sourceTable name
  fixed : ¬q.IsShared catalog form

/-- Two names are written in one form exactly if one of them is the form of the other one. -/
theorem resolve_eq_resolve_iff (h : q.scope catalog = .ok scope) (hne : a ≠ b) :
    scope.resolve a = scope.resolve b ↔
      q.IsWrittenFormOf catalog a b ∨ q.IsWrittenFormOf catalog b a := by
  obtain ⟨hshared_a, hfixed_a⟩ := resolve_scope h a
  obtain ⟨hshared_b, hfixed_b⟩ := resolve_scope h b
  constructor
  · -- a shared name gets the source table's name in front, any other stays as it is
    intro heq
    by_cases ha : q.IsShared catalog a
    · rw [hshared_a ha] at heq
      by_cases hb : q.IsShared catalog b
      · rw [hshared_b hb] at heq
        exact absurd (Scope.qualified_inj heq) hne
      · rw [hfixed_b hb] at heq
        exact .inr ⟨ha, heq.symm, hb⟩
    · rw [hfixed_a ha] at heq
      by_cases hb : q.IsShared catalog b
      · rw [hshared_b hb] at heq
        exact .inl ⟨hb, heq, ha⟩
      · rw [hfixed_b hb] at heq
        exact absurd heq hne
  · -- one of the two is shared and written in the form of the other
    rintro (⟨hb, hform, ha⟩ | ⟨ha, hform, hb⟩)
    · rw [hfixed_a ha, hshared_b hb, hform]
    · rw [hshared_a ha, hfixed_b hb, hform]

/-- Two valid names are written alike exactly if one of them is the form of the other one. -/
theorem written_eq_written_iff (h : q.scope catalog = .ok scope) (ha : Name.isValid a = true)
    (hb : Name.isValid b = true) (hne : a ≠ b) :
    scope.written a = scope.written b ↔
      q.IsWrittenFormOf catalog a b ∨ q.IsWrittenFormOf catalog b a := by
  rw [← resolve_eq_resolve_iff h hne]
  constructor
  · exact ColumnRef.text_ofName_inj (isValid_resolve h ha) (isValid_resolve h hb)
  · intro heq
    rw [Scope.written, heq, Scope.written]

/-! ## What the clauses write -/

/-- Every clause writes the names of the query as the scope has them written. -/
structure WritesNames (q : Query) (scope : Scope) (s : SelectStatement) : Prop where
  columns : (s.items.take q.columns.length).map SelectItem.body =
    q.columns.map (ColumnSelection.written scope)
  joins : s.joins.map (fun j => (j.left.text, j.right.text)) =
    q.joins.map fun join => (scope.written join.left, scope.written join.right)
  conditions : (referencesIn (words s.predicate.text)).map ColumnRef.text =
    q.conditions.map fun c => scope.written c.column
  groupBy : s.groupBy.map ColumnRef.text = q.groupBy.map scope.written
  /-- A sort key that is an alias is quoted whole. -/
  orderBy : s.orderBy.map (fun t => t.ref.text) = q.orderBy.map fun k =>
    if k.column ∈ declaredAliases s.items then Name.quote k.column else scope.written k.column

/-- The clauses of a compiled statement write the names of its query. -/
theorem CompilesTo.writesNames (h : q.CompilesTo settings catalog scope s) :
    q.WritesNames scope s where
  columns := by
    obtain ⟨columns, expressions, hc, -, hitems⟩ := selectItems_eq_ok_iff.mp h.items
    -- the entries of plain columns come first in the select list
    have heach := columnItems_eq_ok_iff.mp hc
    rw [hitems, List.take_left' heach.length_eq.symm]
    exact (map_eq_of_forall₂ (heach.imp fun _ _ => ColumnSelection.written_eq_body)).symm
  joins := by
    have heach := joinClauses_eq_ok_iff.mp h.joins
    refine (map_eq_of_forall₂ (heach.imp fun join clause hj => ?_)).symm
    obtain ⟨left, right, hleft, hright, rfl⟩ := Join.clause_eq_ok_iff.mp hj
    rw [Scope.text_reference (Scope.joinReference_eq_ok_iff.mp hleft).2,
      Scope.text_reference (Scope.joinReference_eq_ok_iff.mp hright).2]
  conditions := by
    -- a condition writes its name by the one renderer
    rw [referencesIn_predicate h.predicate, List.map_map]
    rfl
  groupBy :=
    (map_eq_of_forall₂ ((references_eq_ok_iff.mp h.groupBy).imp fun _ _ hname =>
      (Scope.text_reference hname).symm)).symm
  orderBy := by
    refine (map_eq_of_forall₂ ((sortTerms_eq_ok_iff.mp h.orderBy).imp fun k t hk => ?_)).symm
    obtain ⟨-, -, hterm⟩ := SortKey.term_eq_ok_iff.mp hk
    -- an alias is written as it is, any other sort key as a column
    split at hterm
    · next halias => rw [if_pos halias, hterm, ColumnRef.text]
    · next halias => rw [if_neg halias, Scope.text_reference hterm]

/-- One text for each name.  A valid name is written in a predicate as its reference is in the other
clauses, and no two valid names have one text.  Over the tables of a query two different names are
written alike exactly if one is a column of the source table that a joined one shares, and the other
one is that column behind the source table's name and no such column itself.  The clauses of a
compiled statement write the names of their query in no other way. -/
theorem names_written :
    (∀ name, Name.check name = .ok () →
      Name.quoteChecked name = .ok (ColumnRef.ofName name).text) ∧
    (∀ a b, Name.check a = .ok () → Name.check b = .ok () →
      (ColumnRef.ofName a).text = (ColumnRef.ofName b).text → a = b) ∧
    (∀ (catalog : Catalog) (q : Query) (scope : Scope), q.scope catalog = .ok scope →
      ∀ a b, Name.check a = .ok () → Name.check b = .ok () → a ≠ b →
        (scope.written a = scope.written b ↔
          q.IsWrittenFormOf catalog a b ∨ q.IsWrittenFormOf catalog b a)) ∧
    ∀ (settings : Settings) (catalog : Catalog) (q : Query) (s : SelectStatement),
      q.compile settings catalog = .ok s →
        ∃ scope, q.scope catalog = .ok scope ∧ q.WritesNames scope s := by
  refine ⟨fun name hname => ?_, fun a b ha hb => ?_, fun catalog q scope h a b ha hb hne => ?_,
    fun settings catalog q s h => ?_⟩
  · -- the two renderers
    rw [Name.quoteChecked, hname, ← Name.quoteReference_eq_text]
    rfl
  · -- no two names have one text
    rw [Name.check_eq_ok_iff] at ha hb
    exact ColumnRef.text_ofName_inj ha hb
  · -- names that are written alike in a scope
    rw [Name.check_eq_ok_iff] at ha hb
    exact written_eq_written_iff h ha hb hne
  · -- the clauses of a statement
    obtain ⟨scope, hc⟩ := compile_eq_ok_iff.mp h
    exact ⟨scope, hc.scope_eq, hc.writesNames⟩

/-- A shared column is written like its form behind the table's name, and unlike the column of the
other table; the clauses of a query write it in that form. -/
theorem crossedSample_written :
    (∃ scope, crossedSample.scope crossedCatalog = .ok scope ∧
      scope.written "id" = scope.written "orders.id" ∧
      scope.written "id" ≠ scope.written "u.id") ∧
    Name.quoteChecked "orders.id" = .ok (ColumnRef.qualified "orders" "id").text ∧
    ∃ (s : SelectStatement) (scope : Scope), sample.compile Settings.default sampleCatalog = .ok s ∧
      s.groupBy.map ColumnRef.text = [scope.written "city"] := by
  obtain ⟨hquoted, -, hwritten, hclauses⟩ := names_written
  have hshared : crossedSample.IsShared crossedCatalog "id" :=
    ⟨⟨⟨"id", .integer⟩, by decide, rfl⟩, ⟨.left, "users", some "u", "orders.id", "u.id"⟩,
      by decide, ⟨"id", .boolean⟩, by decide, rfl⟩
  have hfixed : ¬crossedSample.IsShared crossedCatalog "orders.id" := by
    rintro ⟨hsource, -⟩
    exact absurd hsource (by decide)
  have hscope : ∃ scope, crossedSample.scope crossedCatalog = .ok scope := ⟨_, rfl⟩
  obtain ⟨scope, hs⟩ := hscope
  refine ⟨⟨scope, hs, ?_, fun heq => ?_⟩, hquoted "orders.id" rfl, ?_⟩
  · -- one column in both forms
    exact (hwritten _ _ _ hs "id" "orders.id" rfl rfl (by decide)).mpr
      (.inr ⟨hshared, rfl, hfixed⟩)
  · -- columns of different tables
    rcases (hwritten _ _ _ hs "id" "u.id" rfl rfl (by decide)).mp heq with hform | hform
    · exact absurd hform.form_eq (by decide)
    · exact absurd hform.form_eq (by decide)
  · -- a clause that writes its name
    have hcompiles : ∃ s, sample.compile Settings.default sampleCatalog = .ok s := ⟨_, rfl⟩
    obtain ⟨s, hs⟩ := hcompiles
    obtain ⟨scope, -, hwrites⟩ := hclauses _ _ _ _ hs
    exact ⟨s, scope, hs, hwrites.groupBy⟩

end Query

end DashQuery
