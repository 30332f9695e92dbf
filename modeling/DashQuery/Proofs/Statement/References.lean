import DashQuery.Proofs.Compile.Declared
import DashQuery.Proofs.Statement.Vocabulary

/-!
# What the references of a statement denote

A statement refers to columns in its select list, its join conditions, its
predicate, its grouping and its sorting.  Each reference is made from the name of
a declared column by splitting it at its first dot.  That gives back the table and
the column from which the name was put together if the column is plain, that is, if
no dot of the table's name or of the column's own comes in between.

## Key results

- `Query.referencesIn_predicate`: the references of a predicate are those of its conditions
- `Query.CompilesTo.references_checked`: every reference was made from a legal name
- `DeclaredColumn.ofName_name_eq_iff`: when splitting gives a declared column back
- `Query.compile_references`: what the references of a compiled statement denote
-/

namespace DashQuery

/-! ## References among words -/

/-- The column references among words: each quoted name is one, but two quoted names with a dot
between them are one together. -/
def referencesIn : List Word → List ColumnRef
  | q :: d :: c :: rest =>
    if q.kind = .quotedIdentifier ∧ d = .dot ∧ c.kind = .quotedIdentifier then
      .qualified q.content c.content :: referencesIn rest
    else if q.kind = .quotedIdentifier then .bare q.content :: referencesIn (d :: c :: rest)
    else referencesIn (d :: c :: rest)
  | w :: ws =>
    if w.kind = .quotedIdentifier then .bare w.content :: referencesIn ws else referencesIn ws
  | [] => []

/-- A word that is no quoted name is passed over. -/
theorem referencesIn_cons_of_ne {w : Word} (hw : w.kind ≠ .quotedIdentifier) (ws : List Word) :
    referencesIn (w :: ws) = referencesIn ws := by
  match ws with
  | [] | [_] | _ :: _ :: _ => simp [referencesIn, hw]

/-- Two quoted names with a dot between them are one reference. -/
theorem referencesIn_qualified (qualifier column : String) (ws : List Word) :
    referencesIn (.quoted qualifier :: .dot :: .quoted column :: ws) =
      .qualified qualifier column :: referencesIn ws := by
  rw [referencesIn, if_pos ⟨rfl, rfl, rfl⟩, Word.content_quoted, Word.content_quoted]

/-- A quoted name without a dot behind it is a reference by itself. -/
theorem referencesIn_bare (column : String) {d : Word} (hd : d ≠ .dot) (ws : List Word) :
    referencesIn (.quoted column :: d :: ws) = .bare column :: referencesIn (d :: ws) := by
  have hk : (Word.quoted column).kind = .quotedIdentifier := rfl
  -- the dot is looked for where two more words follow
  match ws with
  | [] => rw [referencesIn, if_pos hk, Word.content_quoted]; simp
  | _ :: _ => rw [referencesIn, if_neg fun h => hd h.2.1, if_pos hk, Word.content_quoted]

/-- The words hold these references, whatever stands behind them. -/
def Spells (ws : List Word) (refs : List ColumnRef) : Prop :=
  ∀ rest, referencesIn (ws ++ rest) = refs ++ referencesIn rest

namespace Spells

variable {u v : List Word} {r s : List ColumnRef}

/-- What the words hold is found if nothing stands behind them. -/
theorem referencesIn_eq (h : Spells u r) : referencesIn u = r := by
  have hend := h []
  rwa [List.append_nil, referencesIn, List.append_nil] at hend

/-- No words hold no references. -/
theorem nil : Spells [] [] := fun _ => rfl

/-- Words hold their references one behind the other. -/
theorem append (hu : Spells u r) (hv : Spells v s) : Spells (u ++ v) (r ++ s) := by
  intro rest
  rw [List.append_assoc, hu, hv, List.append_assoc]

/-- Words that are no quoted names hold no reference. -/
theorem of_forall_ne (h : ∀ w ∈ u, w.kind ≠ .quotedIdentifier) : Spells u [] := by
  intro rest
  induction u with
  | nil => rfl
  | cons w ws ih =>
    rw [List.cons_append, referencesIn_cons_of_ne (h w List.mem_cons_self)]
    exact ih fun x hx => h x (List.mem_cons_of_mem _ hx)

/-- A reference in front of a word that is no dot and no name. -/
theorem reference (ref : ColumnRef) {w : Word} (hw : w.kind ≠ .quotedIdentifier) (hd : w ≠ .dot) :
    Spells (ref.words ++ [w]) [ref] := by
  intro rest
  -- the word behind a bare name keeps it from being read as a qualifier
  cases ref with
  | qualified qualifier column =>
    show referencesIn (Word.quoted qualifier :: .dot :: .quoted column :: w :: rest) = _
    rw [referencesIn_qualified, referencesIn_cons_of_ne hw]
    rfl
  | bare column =>
    show referencesIn (Word.quoted column :: w :: rest) = _
    rw [referencesIn_bare column hd, referencesIn_cons_of_ne hw]
    rfl

/-- One more part in front of parts with a separator between them. -/
theorem intercalate_cons {sep : List Word} {wss : List (List Word)} (hsep : Spells sep [])
    (hu : Spells u r) (hrest : Spells (sep.intercalate wss) s) :
    Spells (sep.intercalate (u :: wss)) (r ++ s) := by
  cases wss with
  | nil =>
    -- the last part has no separator behind it
    have hnil : s = [] := hrest.referencesIn_eq.symm
    rw [List.intercalate_singleton, hnil, List.append_nil]
    exact hu
  | cons w ws =>
    rw [List.intercalate_cons_cons]
    have hall := (hu.append hsep).append hrest
    rwa [List.append_nil] at hall

end Spells

/-! ## The references of a predicate -/

/-- Where nothing may be quoted, no listed word is a quoted name. -/
theorem Word.IsListed.kind_ne {vocabulary : List String} {w : Word}
    (h : w.IsListed vocabulary fun _ => False) : w.kind ≠ .quotedIdentifier := by
  intro hk
  simp only [IsListed, hk] at h

/-- Slots without quoted names hold no reference. -/
theorem spells_of_listed {vocabulary : List String} {slots : List Slot}
    (h : ∀ slot ∈ slots, slot.IsListed vocabulary fun _ => False) :
    Spells (slots.map Slot.written) [] := by
  refine Spells.of_forall_ne fun w hw => ?_
  obtain ⟨slot, hslot, rfl⟩ := List.mem_map.mp hw
  cases slot with
  | value p => simp [Slot.written, Word.placeholder]
  | fixed w => exact Word.IsListed.kind_ne (h _ hslot)

/-- An atom holds the reference of its column and no other. -/
theorem Atom.spells_slots (a : Atom) : Spells (a.slots.map Slot.written) [a.ref] := by
  -- nothing behind the reference is quoted, and the operator is no dot
  have hwords : ∀ w ∈ a.op.words, w.kind ≠ .quotedIdentifier := fun w hw =>
    Word.IsListed.kind_ne (a.op.words_listed w hw)
  have hdot : ∀ w ∈ a.op.words, w ≠ Word.dot := by
    cases a.op <;> decide
  have hoperands : Spells ((a.op.operands a.values).map Slot.written) [] :=
    spells_of_listed (a.op.operands_listed a.values)
  -- the operator's first word stands right behind the reference
  cases hop : a.op.words with
  | nil => exact absurd hop a.op.words_ne_nil
  | cons w ws =>
    rw [hop] at hwords hdot
    -- first the reference with that word, then the rest, then the operands
    have hrest : Spells ws [] :=
      Spells.of_forall_ne fun x hx => hwords x (List.mem_cons_of_mem _ hx)
    have href := Spells.reference a.ref (hwords w List.mem_cons_self) (hdot w List.mem_cons_self)
    have hall := (href.append hrest).append hoperands
    rw [Atom.slots, List.map_append, Slot.map_written_fixed, hop]
    simpa only [List.append_assoc, List.singleton_append, List.append_nil] using hall

/-- Parentheses hold no reference. -/
theorem Spells.enclose {slots : List Slot} {refs : List ColumnRef}
    (h : Spells (slots.map Slot.written) refs) :
    Spells ((DashQuery.enclose slots).map Slot.written) refs := by
  unfold DashQuery.enclose
  split
  · next hnil =>
    rw [List.isEmpty_iff.mp hnil] at h
    exact h
  · have hleft : Spells [Word.leftParen] [] := .of_forall_ne (by simp [Word.leftParen])
    have hright : Spells [Word.rightParen] [] := .of_forall_ne (by simp [Word.rightParen])
    have hall := (hleft.append h).append hright
    rw [List.nil_append, List.append_nil] at hall
    rwa [List.map_cons, List.map_append]

/-- A keyword between parts holds no reference, and neither do parts that say nothing. -/
theorem Spells.joinSlots {keyword : Word} (hk : keyword.kind ≠ .quotedIdentifier)
    {parts : List (List Slot)} {refs : List (List ColumnRef)}
    (h : List.Forall₂ (fun u r => Spells (u.map Slot.written) r) parts refs) :
    Spells ((DashQuery.joinSlots keyword parts).map Slot.written) refs.flatten := by
  have hsep : Spells [keyword] [] := .of_forall_ne (by simpa using hk)
  unfold DashQuery.joinSlots
  rw [map_intercalate]
  induction h with
  | nil => exact .nil
  | @cons u r parts refs hu hrest ih =>
    rw [List.filter_cons, List.flatten_cons]
    split
    · -- a part that says something is written, with its references
      exact hsep.intercalate_cons hu ih
    · next hnil =>
      -- one that says nothing is left out, and it has none
      have hu' : u = [] := by simpa using hnil
      have hr : r = [] := by
        rw [hu'] at hu
        exact hu.referencesIn_eq.symm
      rw [hr, List.nil_append]
      exact ih

/-- The reference of a condition's column, as it is written. -/
def Condition.ref (scope : Scope) (c : Condition) : ColumnRef :=
  ColumnRef.ofName (scope.resolve c.column)

/-- A condition holds the reference of its column. -/
theorem Condition.spells_slots {scope : Scope} {c : Condition} {b : BoundText}
    (h : c.predicate scope = .ok b) : Spells ((c.slots scope).map Slot.written) [c.ref scope] := by
  obtain ⟨-, -, -, op, tail, hop, -, -⟩ := predicate_eq_ok_iff.mp h
  simp only [slots, atom?, hop]
  exact Atom.spells_slots _

namespace FilterNode

/-- The keyword of a combinator is not quoted. -/
theorem keyword_kind_ne (combinator : Combinator) :
    (Word.keyword combinator.keyword).kind ≠ .quotedIdentifier := by simp [Word.keyword]

mutual

/-- A node holds the references of its conditions, left to right. -/
theorem spells_slots {scope : Scope} : ∀ n : FilterNode,
    (∀ c ∈ leaves n, ∃ b, c.predicate scope = .ok b) →
      Spells ((slots scope n).map Slot.written) ((leaves n).map (Condition.ref scope))
  | .condition c, h => by
    obtain ⟨b, hb⟩ := h c (by simp [leaves])
    rw [slots, leaves]
    exact c.spells_slots hb
  | .group combinator entries, h => by
    rw [leaves] at h ⊢
    rw [slots, leavesOf_eq_flatMap, List.map_flatMap, List.flatMap_def]
    -- an entry without conditions drops out of the slots, and it has no references
    exact (Spells.joinSlots (keyword_kind_ne combinator) (spells_slotsOf entries h)).enclose

/-- The same for several nodes, one by one. -/
theorem spells_slotsOf {scope : Scope} : ∀ ns : List FilterNode,
    (∀ c ∈ leavesOf ns, ∃ b, c.predicate scope = .ok b) →
      List.Forall₂ (fun u r => Spells (u.map Slot.written) r) (slotsOf scope ns)
        (ns.map fun n => (leaves n).map (Condition.ref scope))
  | [], _ => by
    rw [slotsOf]
    exact .nil
  | n :: ns, h => by
    rw [leavesOf, List.forall_mem_append] at h
    rw [slotsOf, List.map_cons]
    exact .cons (spells_slots n h.1) (spells_slotsOf ns h.2)

end

end FilterNode

namespace Query

variable {bounds : FilterBounds} {settings : Settings} {catalog : Catalog} {scope : Scope}
  {q : Query} {s : SelectStatement} {b : BoundText}

/-- The predicate of a query holds the references of its conditions, in order. -/
theorem spells_filterSlots (h : q.predicate bounds scope = .ok b) :
    Spells ((q.filterSlots scope).map Slot.written)
      (q.conditions.map (Condition.ref scope)) := by
  have hchecked := conditions_checked h
  unfold conditions at hchecked ⊢
  unfold filterSlots
  cases hf : q.filters with
  -- without filters nothing is written
  | none => exact .nil
  | some filters =>
    simp only [hf] at hchecked
    show Spells ((joinSlots _ (FilterNode.slotsOf scope filters.toGroup.entries)).map _)
      ((FilterNode.leavesOf filters.toGroup.entries).map _)
    rw [FilterNode.leavesOf_eq_flatMap, List.map_flatMap, List.flatMap_def]
    exact Spells.joinSlots (FilterNode.keyword_kind_ne _)
      (FilterNode.spells_slotsOf filters.toGroup.entries hchecked)

/-- Reading the text of a predicate finds the references of the conditions, in order. -/
theorem referencesIn_predicate (h : q.predicate bounds scope = .ok b) :
    referencesIn (words b.text) = q.conditions.map (Condition.ref scope) := by
  rw [(shows_predicate h).reads.words_eq]
  exact (spells_filterSlots h).referencesIn_eq

end Query

/-! ## The references of a statement -/

/-- The reference of a selected column. -/
def SelectItem.ref? : SelectItem → Option ColumnRef
  | column ref _ => some ref
  | aggregate _ ref _ => some ref
  | expression _ _ => none

/-- The entry of a selected column holds a reference that was made from its name. -/
theorem ColumnSelection.ref?_of_item {scope : Scope} {c : ColumnSelection} {item : SelectItem}
    (h : c.item scope = .ok item) :
    ∃ ref, scope.reference c.column = .ok ref ∧ item.ref? = some ref := by
  cases hf : c.aggregate with
  | none =>
    obtain ⟨ref, href, -, rfl⟩ := (item_eq_ok_iff_of_none hf).mp h
    exact ⟨ref, href, rfl⟩
  | some function =>
    obtain ⟨ref, href, -, -, rfl⟩ := (item_eq_ok_iff_of_some hf).mp h
    exact ⟨ref, href, rfl⟩

namespace SelectStatement

/-- The references in the join conditions. -/
def joinRefs (s : SelectStatement) : List ColumnRef := s.joins.flatMap fun j => [j.left, j.right]

/-- The references in the select list. -/
def itemRefs (s : SelectStatement) : List ColumnRef := s.items.filterMap SelectItem.ref?

/-- The references among the sort keys: a key that is an alias of the select list is none. -/
def sortRefs (s : SelectStatement) : List ColumnRef :=
  (s.orderBy.map SortTerm.ref).filter fun ref =>
    !(declaredAliases s.items).any fun aliasName => ref == .bare aliasName

/-- The references in the select list, the predicate, the grouping and the sorting. -/
def rowRefs (s : SelectStatement) : List ColumnRef :=
  s.itemRefs ++ referencesIn (DashQuery.words s.predicate.text) ++ s.groupBy ++ s.sortRefs

/-- All column references that the statement writes outside of its expressions. -/
def columnRefs (s : SelectStatement) : List ColumnRef := s.joinRefs ++ s.rowRefs

end SelectStatement

namespace Query

variable {settings : Settings} {catalog : Catalog} {scope : Scope} {q : Query}
  {s : SelectStatement} {ref : ColumnRef}

/-- Both sides of a join's condition passed their check. -/
theorem CompilesTo.joinSides_checked (h : q.CompilesTo settings catalog scope s) {j : JoinClause}
    (hj : j ∈ s.joins) (href : ref ∈ [j.left, j.right]) :
    ∃ name, scope.joinReference name = .ok ref := by
  obtain ⟨join, -, hclause⟩ := exists_of_mem_right (joinClauses_eq_ok_iff.mp h.joins) hj
  obtain ⟨left, right, hleft, hright, rfl⟩ := Join.clause_eq_ok_iff.mp hclause
  simp only [List.mem_cons, List.not_mem_nil, or_false] at href
  rcases href with rfl | rfl
  · exact ⟨_, hleft⟩
  · exact ⟨_, hright⟩

/-- The references of the join conditions were made from valid and legal names. -/
theorem CompilesTo.joinRefs_checked (h : q.CompilesTo settings catalog scope s)
    (href : ref ∈ s.joinRefs) : ∃ name, scope.reference name = .ok ref := by
  obtain ⟨j, hj, href⟩ := List.mem_flatMap.mp href
  obtain ⟨name, hname⟩ := h.joinSides_checked hj href
  exact ⟨name, (Scope.joinReference_eq_ok_iff.mp hname).2⟩

/-- So were those of the select list. -/
theorem CompilesTo.itemRefs_checked (h : q.CompilesTo settings catalog scope s)
    (href : ref ∈ s.itemRefs) : ∃ name, scope.reference name = .ok ref := by
  obtain ⟨item, hitem, href⟩ := List.mem_filterMap.mp href
  obtain ⟨columns, expressions, hc, he, hitems⟩ := selectItems_eq_ok_iff.mp h.items
  rw [hitems, List.mem_append] at hitem
  rcases hitem with hitem | hitem
  · obtain ⟨c, -, hcitem⟩ := exists_of_mem_right (columnItems_eq_ok_iff.mp hc) hitem
    obtain ⟨ref', href', hsome⟩ := ColumnSelection.ref?_of_item hcitem
    rw [hsome, Option.some.injEq] at href
    exact ⟨_, href ▸ href'⟩
  · -- a computed column has no reference
    rw [expressionItems_eq he] at hitem
    obtain ⟨c, -, rfl⟩ := List.mem_map.mp hitem
    cases href

/-- So were those of the predicate. -/
theorem CompilesTo.predicateRefs_checked (h : q.CompilesTo settings catalog scope s)
    (href : ref ∈ referencesIn (words s.predicate.text)) :
    ∃ name, scope.reference name = .ok ref := by
  rw [referencesIn_predicate h.predicate, List.mem_map] at href
  obtain ⟨c, hc, rfl⟩ := href
  obtain ⟨b, hb⟩ := conditions_checked h.predicate c hc
  obtain ⟨hvalid, hlegal, -⟩ := Condition.predicate_eq_ok_iff.mp hb
  exact ⟨_, Scope.reference_eq_ok_iff.mpr ⟨hvalid, hlegal, rfl⟩⟩

/-- So were those of the sort keys that are no aliases. -/
theorem CompilesTo.sortRefs_checked (h : q.CompilesTo settings catalog scope s)
    (href : ref ∈ s.sortRefs) : ∃ name, scope.reference name = .ok ref := by
  obtain ⟨href, halias⟩ := List.mem_filter.mp href
  obtain ⟨t, ht, rfl⟩ := List.mem_map.mp href
  obtain ⟨k, -, hk⟩ := exists_of_mem_right (sortTerms_eq_ok_iff.mp h.orderBy) ht
  obtain ⟨-, -, hterm⟩ := SortKey.term_eq_ok_iff.mp hk
  split at hterm
  · next hmem =>
    -- an alias is left out of the references
    rw [hterm] at halias
    have hnone : ∀ aliasName ∈ declaredAliases s.items, k.column ≠ aliasName := by
      simpa using halias
    exact absurd rfl (hnone _ hmem)
  · exact ⟨_, hterm⟩

/-- Every reference of a compiled statement was made from a valid and legal name. -/
theorem CompilesTo.references_checked (h : q.CompilesTo settings catalog scope s) :
    ∀ ref ∈ s.columnRefs, ∃ name, scope.reference name = .ok ref := by
  intro ref href
  simp only [SelectStatement.columnRefs, SelectStatement.rowRefs, List.mem_append] at href
  -- clause by clause: joins, select list, predicate, grouping, sorting
  rcases href with href | ((href | href) | href) | href
  · exact h.joinRefs_checked href
  · exact h.itemRefs_checked href
  · exact h.predicateRefs_checked href
  · obtain ⟨name, -, hname⟩ := exists_of_mem_right (references_eq_ok_iff.mp h.groupBy) href
    exact ⟨name, hname⟩
  · exact h.sortRefs_checked href

end Query

/-! ## References and declared columns -/

/-- The name from which a reference is made. -/
def ColumnRef.name : ColumnRef → String
  | bare column => column
  | qualified qualifier column => Scope.qualified qualifier column

/-- Splitting a name loses nothing. -/
theorem ColumnRef.name_ofName (name : String) : (ofName name).name = name := by
  unfold ofName
  split
  · next qualifier column hs => exact (Name.eq_of_split? hs).1.symm
  · rfl

/-- A name is split at its first dot, so the part in front holds none. -/
theorem ColumnRef.dot_not_mem_qualifier {name a b : String} (h : ofName name = qualified a b) :
    '.' ∉ a.toList := by
  unfold ofName at h
  split at h
  · next hs =>
    obtain ⟨rfl, rfl⟩ := qualified.inj h
    exact (Name.eq_of_split? hs).2.2.2
  · cases h

namespace DeclaredColumn

/-- The reference that denotes the column: its table, if it belongs to the column's name, and its
own name. -/
def ref (d : DeclaredColumn) : ColumnRef :=
  match d.qualifier? with
  | some qualifier => .qualified qualifier d.column.name
  | none => .bare d.column.name

/-- No dot and no emptiness stands in the way of splitting the column's name: the table's name holds
no dot and the column has a name, or the column goes without its table and its name is not split. -/
structure IsPlain (d : DeclaredColumn) : Prop where
  qualified : ∀ qualifier ∈ d.qualifier?, '.' ∉ qualifier.toList ∧ d.column.name ≠ ""
  bare : d.qualifier? = none → Name.split? d.column.name = none

instance (d : DeclaredColumn) : Decidable d.IsPlain :=
  decidable_of_iff ((∀ qualifier ∈ d.qualifier?, '.' ∉ qualifier.toList ∧ d.column.name ≠ "") ∧
    (d.qualifier? = none → Name.split? d.column.name = none))
    ⟨fun h => ⟨h.1, h.2⟩, fun h => ⟨h.qualified, h.bare⟩⟩

/-- The reference that denotes a column is made from the column's name. -/
theorem name_ref (d : DeclaredColumn) : d.ref.name = d.name := by
  unfold ref name
  cases d.qualifier? <;> rfl

/-- Splitting the name of a column gives its reference back exactly if the column is plain. -/
theorem ofName_name_eq_iff {d : DeclaredColumn} (hq : ∀ qualifier ∈ d.qualifier?, qualifier ≠ "") :
    ColumnRef.ofName d.name = d.ref ↔ d.IsPlain := by
  obtain ⟨qualifier?, column⟩ := d
  cases qualifier? with
  | none =>
    -- a column by itself must not be split
    have hplain : IsPlain ⟨none, column⟩ ↔ Name.split? column.name = none :=
      ⟨fun h => h.bare rfl, fun h => ⟨by simp, fun _ => h⟩⟩
    rw [hplain]
    show ColumnRef.ofName column.name = .bare column.name ↔ _
    unfold ColumnRef.ofName
    cases Name.split? column.name <;> simp
  | some qualifier =>
    -- one behind a table must be split at the dot between them
    have hplain : IsPlain ⟨some qualifier, column⟩ ↔ '.' ∉ qualifier.toList ∧ column.name ≠ "" :=
      ⟨fun h => h.qualified qualifier rfl, fun h => ⟨by simpa using h, nofun⟩⟩
    rw [hplain]
    show ColumnRef.ofName (qualifier ++ "." ++ column.name) = .qualified qualifier column.name ↔ _
    constructor
    · intro h
      unfold ColumnRef.ofName at h
      split at h
      · next hs =>
        obtain ⟨rfl, rfl⟩ := ColumnRef.qualified.inj h
        obtain ⟨-, -, hname, hdot⟩ := Name.eq_of_split? hs
        exact ⟨hdot, hname⟩
      · cases h
    · rintro ⟨hdot, hname⟩
      rw [ColumnRef.ofName, Name.split?_append (hq qualifier rfl) hdot hname]

end DeclaredColumn

namespace Query

variable {settings : Settings} {catalog : Catalog} {scope : Scope} {q : Query}
  {s : SelectStatement}

/-- A name becomes a reference as a declared column's name does. -/
theorem reference_declared (h : q.scope catalog = .ok scope) {name : String} {ref : ColumnRef}
    (href : scope.reference name = .ok ref) :
    ∃ d ∈ q.declared catalog, ref = .ofName d.name := by
  obtain ⟨-, hlegal, rfl⟩ := Scope.reference_eq_ok_iff.mp href
  -- the name is written as it is resolved, and that is legal too
  obtain ⟨d, hd, hname⟩ := (contains_scope_iff h).mp (contains_resolve h hlegal)
  exact ⟨d, hd, by rw [hname]⟩

/-- A reference that is made from a name denotes a declared column exactly if a plain one comes to
that name. -/
theorem denotes_iff (h : q.scope catalog = .ok scope) (name : String) :
    (∃ d ∈ q.declared catalog, ColumnRef.ofName name = d.ref) ↔
      ∃ d ∈ q.declared catalog, d.name = name ∧ d.IsPlain := by
  refine exists_congr fun d => and_congr_right fun hd => ?_
  have hplain := DeclaredColumn.ofName_name_eq_iff (declared_qualifier_ne h hd)
  constructor
  · intro heq
    -- putting the parts together again gives the name back
    have hname : d.name = name := by rw [← d.name_ref, ← heq, ColumnRef.name_ofName]
    exact ⟨hname, hplain.mp (hname ▸ heq)⟩
  · rintro ⟨rfl, hp⟩
    exact hplain.mpr hp

/-- What the references of a compiled statement denote.  Each is made from the name of a declared
column by splitting it at its first dot.  It denotes a declared column exactly if a plain one has
that name, so all of them do if all declared columns are plain.  A table whose name holds a dot is
denoted by none. -/
theorem compile_references (h : q.compile settings catalog = .ok s) :
    (∀ ref ∈ s.columnRefs, ∃ d ∈ q.declared catalog, ref = .ofName d.name) ∧
    (∀ ref ∈ s.columnRefs, (∃ d ∈ q.declared catalog, ref = d.ref) ↔
      ∃ d ∈ q.declared catalog, ref = .ofName d.name ∧ d.IsPlain) ∧
    ((∀ d ∈ q.declared catalog, d.IsPlain) →
      ∀ ref ∈ s.columnRefs, ∃ d ∈ q.declared catalog, ref = d.ref) ∧
    ∀ qualifier column, .qualified qualifier column ∈ s.columnRefs → '.' ∉ qualifier.toList := by
  obtain ⟨scope, hc⟩ := compile_eq_ok_iff.mp h
  -- every reference is made from a legal name, so from that of a declared column
  have hmade : ∀ ref ∈ s.columnRefs, ∃ d ∈ q.declared catalog, ref = .ofName d.name := by
    intro ref href
    obtain ⟨name, hname⟩ := hc.references_checked ref href
    exact reference_declared hc.scope_eq hname
  have hdenotes : ∀ ref ∈ s.columnRefs, (∃ d ∈ q.declared catalog, ref = d.ref) ↔
      ∃ d ∈ q.declared catalog, ref = .ofName d.name ∧ d.IsPlain := by
    intro ref href
    obtain ⟨d, -, rfl⟩ := hmade ref href
    rw [denotes_iff hc.scope_eq]
    refine exists_congr fun e => and_congr_right fun _ => and_congr_left fun _ => ?_
    -- two names are the same if their references are
    exact ⟨fun heq => by rw [heq], fun heq => by
      rw [← ColumnRef.name_ofName e.name, ← heq, ColumnRef.name_ofName]⟩
  refine ⟨hmade, hdenotes, fun hplain ref href => ?_, fun qualifier column href => ?_⟩
  · obtain ⟨d, hd, heq⟩ := hmade ref href
    exact (hdenotes ref href).mpr ⟨d, hd, heq, hplain d hd⟩
  · obtain ⟨d, -, heq⟩ := hmade _ href
    exact ColumnRef.dot_not_mem_qualifier heq.symm

/-- Tables for a join under a name with a dot. -/
def dottedCatalog : Catalog :=
  (Catalog.empty.insert "orders" [⟨"goods_id", .integer⟩]).insert "goods"
    [⟨"id", .integer⟩, ⟨"total", .real⟩]

/-- A join under the name `g.v1`, with a condition and a selected column behind that name. -/
def dottedSample : Query where
  sourceTable := "orders"
  columns := [⟨"g.v1.total", none, none⟩]
  expressionColumns := []
  joins := [⟨.left, "goods", some "g.v1", "orders.goods_id", "g.v1.id"⟩]
  filters := none
  groupBy := []
  orderBy := []
  limit := none
  offset := none

/-- The column behind a name with a dot is denoted by none; where all columns are plain, each is
denoted. -/
theorem dottedSample_references :
    (∃ s, dottedSample.compile Settings.default dottedCatalog = .ok s ∧
      .qualified "g" "v1.total" ∈ s.columnRefs ∧
      ¬∃ d ∈ dottedSample.declared dottedCatalog, .qualified "g" "v1.total" = d.ref) ∧
    ∃ s, sample.compile Settings.default sampleCatalog = .ok s ∧
      ∀ ref ∈ s.columnRefs, ∃ d ∈ sample.declared sampleCatalog, ref = d.ref := by
  constructor
  · have h : ∃ s, dottedSample.compile Settings.default dottedCatalog = .ok s ∧
        s.items = [.column (.qualified "g" "v1.total") none] := ⟨_, rfl, rfl⟩
    obtain ⟨s, hs, hitems⟩ := h
    -- the name is split at the dot of the alias
    have hmem : .qualified "g" "v1.total" ∈ s.columnRefs := by
      simp [SelectStatement.columnRefs, SelectStatement.rowRefs, SelectStatement.itemRefs, hitems,
        SelectItem.ref?]
    refine ⟨s, hs, hmem, ?_⟩
    rw [(compile_references hs).2.1 _ hmem]
    decide
  · have h : ∃ s, sample.compile Settings.default sampleCatalog = .ok s := ⟨_, rfl⟩
    obtain ⟨s, hs⟩ := h
    exact ⟨s, hs, (compile_references hs).2.2.1 (by decide)⟩

end Query

end DashQuery
