import DashQuery.Proofs.Ordered
import DashQuery.Proofs.Statement.Vocabulary
import DashQuery.Storage.Database

/-!
# The names of result columns

A row holds the values of the select list by the names of its entries.  Such a name
is an alias that the query gives, one that is made of a function and a column, or
the column of a plain entry without its table.  Two names that are made in one way
are the same only if they are made of the same parts.  Nothing keeps entries of one
name apart, though: a row holds the value of the last of them.

## Key results

- `NameSource.name_inj`: within one kind of source the source can be read off the name
- `SelectStatement.length_rowOf`: a row has as many entries as there are different names
- `Database.project?_eq_rowOf`: the row store makes rows of this form
- `Query.compile_resultNames`: when the names differ, and what a row holds
-/

namespace DashQuery

/-! ## Where a name comes from -/

/-- How a name is made. -/
inductive NameKind where
  | declared
  | synthesised
  | segment
deriving DecidableEq

/-- What the name of a result column is made of. -/
inductive NameSource where
  | declared (aliasName : String)
  | synthesised (function : Aggregate) (column : String)
  | segment (column : String)
deriving DecidableEq

namespace NameSource

def kind : NameSource → NameKind
  | declared _ => .declared
  | synthesised _ _ => .synthesised
  | segment _ => .segment

/-- The name made of the source. -/
def name : NameSource → String
  | declared aliasName => aliasName
  | synthesised function column => function.lowerName ++ "_" ++ column
  | segment column => column

end NameSource

/-- What the name of a selected column is made of: its alias, or its function and the column, or the
column's last part. -/
def ColumnSelection.nameSource (scope : Scope) (c : ColumnSelection) : NameSource :=
  match c.aliasName, c.aggregate with
  | some aliasName, _ => .declared aliasName
  | none, some function => .synthesised function (maskedColumn c.column)
  | none, none => .segment (ColumnRef.ofName (scope.resolve c.column)).column

/-- No function's name holds an underscore, so a synthesised alias starts with it. -/
theorem Aggregate.takeWhile_lowerName (function : Aggregate) (rest : List Char) :
    (function.lowerName.toList ++ '_' :: rest).takeWhile (· != '_') =
      function.lowerName.toList := by
  cases function <;> rfl

/-- No two functions have one name. -/
theorem Aggregate.lowerName_inj {f g : Aggregate} (h : f.lowerName = g.lowerName) : f = g := by
  cases f <;> cases g <;> first | rfl | exact absurd h (by decide)

/-- Within one kind the source can be read off the name. -/
theorem NameSource.name_inj {a b : NameSource} (hk : a.kind = b.kind) (h : a.name = b.name) :
    a = b := by
  cases a <;> cases b <;> try cases hk
  case declared.declared x y => exact congrArg declared h
  case segment.segment x y => exact congrArg segment h
  case synthesised.synthesised f x g y =>
    have htext : f.lowerName.toList ++ '_' :: x.toList = g.lowerName.toList ++ '_' :: y.toList := by
      simpa [name] using congrArg String.toList h
    -- the function is what stands in front of the first underscore
    have hprefix := congrArg (List.takeWhile (· != '_')) htext
    rw [f.takeWhile_lowerName, g.takeWhile_lowerName, String.toList_inj] at hprefix
    obtain rfl := Aggregate.lowerName_inj hprefix
    rw [List.append_cancel_left_eq, List.cons.injEq, String.toList_inj] at htext
    rw [htext.2]

/-- Names differ exactly if their sources do and none of one kind is spelled like one of another. -/
theorem NameSource.nodup_map_name_iff {sources : List NameSource} :
    (sources.map NameSource.name).Nodup ↔
      sources.Nodup ∧ ∀ a ∈ sources, ∀ b ∈ sources, a.name = b.name → a.kind = b.kind := by
  constructor
  · intro h
    exact ⟨h.of_map, fun a ha b hb hname => by rw [List.inj_on_of_nodup_map h ha hb hname]⟩
  · rintro ⟨hnodup, hkind⟩
    exact hnodup.map_on fun a ha b hb hname => name_inj (hkind a ha b hb hname) hname

/-- The name of an entry is made of the source of its selection. -/
theorem ColumnSelection.resultName_of_item {scope : Scope} {c : ColumnSelection}
    {item : SelectItem} (h : c.item scope = .ok item) :
    item.resultName = (c.nameSource scope).name := by
  cases hf : c.aggregate with
  -- the alias, or else the column's own name
  | none =>
    obtain ⟨ref, href, -, rfl⟩ := (item_eq_ok_iff_of_none hf).mp h
    obtain ⟨-, -, rfl⟩ := Scope.reference_eq_ok_iff.mp href
    unfold nameSource
    cases ha : c.aliasName <;> simp [hf, SelectItem.resultName, NameSource.name]
  -- the alias, or else one made up of the function and the column
  | some function =>
    obtain ⟨ref, -, -, -, rfl⟩ := (item_eq_ok_iff_of_some hf).mp h
    unfold nameSource
    cases ha : c.aliasName <;> simp [hf, SelectItem.resultName, NameSource.name,
      Aggregate.defaultAlias]

/-! ## Rows -/

namespace SelectStatement

/-- The names of the result columns, in order. -/
def resultNames (s : SelectStatement) : List String := s.items.map SelectItem.resultName

/-- The row of the values of the select list. -/
def rowOf (s : SelectStatement) (values : List Json) : Row :=
  Ordered.ofList (s.resultNames.zip values)

variable {s : SelectStatement} {values : List Json}

/-- A row has as many entries as there are different names. -/
theorem length_rowOf (h : values.length = s.items.length) :
    (s.rowOf values).length = s.resultNames.dedup.length := by
  have hlength : s.resultNames.length ≤ values.length := by
    rw [resultNames, List.length_map, h]
  rw [rowOf, Ordered.length_ofList, List.map_fst_zip hlength]

/-- A row has an entry for each value exactly if the names differ. -/
theorem length_rowOf_eq_iff (h : values.length = s.items.length) :
    (s.rowOf values).length = s.items.length ↔ s.resultNames.Nodup := by
  rw [length_rowOf h, ← List.dedup_eq_self]
  have hitems : s.items.length = s.resultNames.length := by rw [resultNames, List.length_map]
  rw [hitems]
  exact ⟨(List.dedup_sublist _).eq_of_length, congrArg List.length⟩

end SelectStatement

namespace Database

variable {r : Relation} {cells : List Cell}

/-- A select list that is not empty makes the row of its entries. -/
theorem project?_of_ne_nil {items : List SelectItem} (h : items ≠ []) :
    project? r items cells = (items.mapM (projected? r cells)).map Ordered.ofList := by
  rw [project?, if_neg (by simpa using h)]

/-- The entry goes by the name of the item, if its column was declared in the spelling in which it
is selected. -/
theorem name_of_projected? {item : SelectItem} {entry : String × Json}
    (h : projected? r cells item = some entry)
    (hspelled : ∀ ref, item = .column ref none →
      ∀ c ∈ namedCell? r cells ref.column, c.1 = ref.column) : item.resultName = entry.1 := by
  cases item with
  | column ref aliasName =>
    obtain ⟨c, hc, rfl⟩ := Option.map_eq_some_iff.mp h
    cases aliasName with
    -- without an alias the name is the declared one
    | none => exact (hspelled ref rfl c hc).symm
    | some aliasName => rfl
  -- other entries are computed, not read from the table
  | aggregate function ref aliasName => cases h
  | expression text aliasName => cases h

/-- The entries of a row go by the names of their items, one by one. -/
theorem names_of_entries {items : List SelectItem} {entries : List (String × Json)}
    (h : List.Forall₂ (fun item entry => projected? r cells item = some entry) items entries)
    (hspelled : ∀ ref, .column ref none ∈ items →
      ∀ c ∈ namedCell? r cells ref.column, c.1 = ref.column) :
    items.map SelectItem.resultName = entries.map Prod.fst := by
  induction h with
  | nil => rfl
  | cons hentry _ ih =>
    have hhead := name_of_projected? hentry fun ref href => hspelled ref (href ▸ List.mem_cons_self)
    have hrest := ih fun ref href => hspelled ref (List.mem_cons_of_mem _ href)
    rw [List.map_cons, List.map_cons, hhead, hrest]

/-- The row store makes rows of statements, if plain columns were declared in the spelling in which
they are selected. -/
theorem project?_eq_rowOf {s : SelectStatement} {row : Row} (hne : s.items ≠ [])
    (h : project? r s.items cells = some row)
    (hspelled : ∀ ref, .column ref none ∈ s.items →
      ∀ c ∈ namedCell? r cells ref.column, c.1 = ref.column) :
    ∃ values, values.length = s.items.length ∧ row = s.rowOf values := by
  rw [project?_of_ne_nil hne] at h
  obtain ⟨entries, hentries, rfl⟩ := Option.map_eq_some_iff.mp h
  -- every item has an entry of its own
  have heach := forall₂_of_mapM_eq_some hentries
  refine ⟨entries.map Prod.snd, by rw [List.length_map, heach.length_eq], ?_⟩
  rw [SelectStatement.rowOf, SelectStatement.resultNames, names_of_entries heach hspelled,
    ← List.zip_of_prod rfl rfl]

end Database

/-! ## Compiled statements -/

namespace Query

variable {settings : Settings} {catalog : Catalog} {scope : Scope} {q : Query}
  {s : SelectStatement}

/-- What the names of a query's result columns are made of, in order. -/
def nameSources (scope : Scope) (q : Query) : List NameSource :=
  q.columns.map (ColumnSelection.nameSource scope)

/-- Without computed columns the result columns are named after the selected columns. -/
theorem CompilesTo.resultNames_eq (h : q.CompilesTo settings catalog scope s)
    (he : q.expressionColumns = []) :
    s.resultNames = (q.nameSources scope).map NameSource.name := by
  obtain ⟨columns, expressions, hc, hex, hitems⟩ := selectItems_eq_ok_iff.mp h.items
  rw [he] at hex
  rw [expressionItems_eq hex, List.map_nil, List.append_nil] at hitems
  rw [SelectStatement.resultNames, hitems, nameSources, List.map_map, ← List.forall₂_eq_eq_eq,
    List.forall₂_map_left_iff, List.forall₂_map_right_iff]
  exact (columnItems_eq_ok_iff.mp hc).flip.imp fun _ _ hitem =>
    ColumnSelection.resultName_of_item hitem

/-- The names of the result columns of a query without computed columns, and the rows they make.
The names differ exactly if they are made of different sources, and none made in one way is spelled
like one made in another.  A row holds under each name the last value that goes by it; so it has as
many entries as there are different names, and one for each value exactly if all names differ. -/
theorem compile_resultNames (h : q.compile settings catalog = .ok s)
    (he : q.expressionColumns = []) (hne : q.columns ≠ []) :
    ∃ scope, q.scope catalog = .ok scope ∧ s.items ≠ [] ∧
      s.resultNames = (q.nameSources scope).map NameSource.name ∧
      (s.resultNames.Nodup ↔ (q.nameSources scope).Nodup ∧
        ∀ a ∈ q.nameSources scope, ∀ b ∈ q.nameSources scope, a.name = b.name → a.kind = b.kind) ∧
      ∀ values, values.length = s.items.length →
        (∀ name, (s.rowOf values).lookup name = (s.resultNames.zip values).reverse.lookup name) ∧
        (s.rowOf values).length = s.resultNames.dedup.length ∧
        ((s.rowOf values).length = s.items.length ↔ s.resultNames.Nodup) := by
  obtain ⟨scope, hc⟩ := compile_eq_ok_iff.mp h
  have hnames := hc.resultNames_eq he
  refine ⟨scope, hc.scope_eq, fun hitems => hne ?_, hnames, ?_, fun values hlength =>
    ⟨Ordered.lookup_ofList _, SelectStatement.length_rowOf hlength,
      SelectStatement.length_rowOf_eq_iff hlength⟩⟩
  · -- as many entries as selected columns, so at least one
    rw [SelectStatement.resultNames, hitems, nameSources, List.map_map] at hnames
    exact List.map_eq_nil_iff.mp hnames.symm
  · -- the names by their sources
    rw [hnames]
    exact NameSource.nodup_map_name_iff

/-- A column of one name from each of two tables. -/
def pairedSample : Query where
  sourceTable := "orders"
  columns := [⟨"id", none, none⟩, ⟨"u.id", none, none⟩]
  expressionColumns := []
  joins := [⟨.left, "users", some "u", "orders.id", "u.id"⟩]
  filters := none
  groupBy := []
  orderBy := []
  limit := none
  offset := none

/-- A row of two columns of one name holds one value, a row of distinct names all of them. -/
theorem pairedSample_resultNames :
    (∃ s, pairedSample.compile Settings.default sampleCatalog = .ok s ∧
      ∀ a b, (s.rowOf [a, b]).length = 1 ∧ (s.rowOf [a, b]).lookup "id" = some b) ∧
    ∃ s, sample.compile Settings.default sampleCatalog = .ok s ∧
      ∀ a b, (s.rowOf [a, b]).length = 2 := by
  constructor
  · -- two columns of one name
    have h : ∃ s, pairedSample.compile Settings.default sampleCatalog = .ok s ∧
        s.items.length = 2 ∧ s.resultNames = ["id", "id"] := ⟨_, rfl, rfl, rfl⟩
    obtain ⟨s, hs, hlength, hnames⟩ := h
    obtain ⟨scope, -, -, -, -, hrow⟩ := compile_resultNames hs rfl (by decide)
    refine ⟨s, hs, fun a b => ?_⟩
    obtain ⟨hlookup, hentries, -⟩ := hrow [a, b] hlength.symm
    rw [hlookup, hentries, hnames]
    exact ⟨by decide, rfl⟩
  · -- two names
    have h : ∃ s, sample.compile Settings.default sampleCatalog = .ok s ∧
        s.items.length = 2 ∧ s.resultNames = ["city", "count_id"] := ⟨_, rfl, rfl, rfl⟩
    obtain ⟨s, hs, hlength, hnames⟩ := h
    obtain ⟨scope, -, -, -, -, hrow⟩ := compile_resultNames hs rfl (by decide)
    refine ⟨s, hs, fun a b => ?_⟩
    obtain ⟨-, -, hall⟩ := hrow [a, b] hlength.symm
    rw [← hlength, hall, hnames]
    decide

/-- Entries that differ can have the same name, so not all values reach the row. -/
theorem pairedSample_sameName :
    ¬∀ (settings : Settings) (catalog : Catalog) (q : Query) (s : SelectStatement),
      q.compile settings catalog = .ok s → q.expressionColumns = [] → q.columns ≠ [] →
      ∀ a ∈ s.items, ∀ b ∈ s.items, a.resultName = b.resultName → a = b := by
  intro hall
  -- columns of different tables, each called `id` in its own
  have h : ∃ s, pairedSample.compile Settings.default sampleCatalog = .ok s ∧
      s.items = [.column (.qualified "orders" "id") none, .column (.qualified "u" "id") none] :=
    ⟨_, rfl, rfl⟩
  obtain ⟨s, hs, hitems⟩ := h
  have heq := hall _ _ _ s hs rfl (by decide) (.column (.qualified "orders" "id") none)
    (by simp [hitems]) (.column (.qualified "u" "id") none) (by simp [hitems]) rfl
  exact absurd heq (by decide)

end Query

end DashQuery
