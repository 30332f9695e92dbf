import DashQuery.Proofs.Ordered
import DashQuery.Storage.Database

/-!
# The catalog of a database

The catalog lists the relations of a database whose names do not match the pattern
`sqlite_%`.  Names that begin with `sqlite_` are the database's own, and the pattern
is meant for them; but an underscore of a pattern stands for any character, so a name
that goes on in another way behind `sqlite` is left out as well.

## Key results

- `Like.literal_append_iff`: what matches a pattern that begins with plain characters
- `Database.isInternal_iff`: the names left out are those that match the pattern
- `Database.isInternal_iff_or`: they are the reserved ones and those that look alike
- `Database.table?_catalog_iff`: what the catalog holds
- `Database.foldl_insert_eq_catalog`: the catalog as registered relation by relation
- `Database.catalog_introspects`: the catalog of a database, and when no relation is missing
-/

namespace DashQuery

/-! ## Patterns -/

/-- A text matches a pattern: a percent sign stands for any text and an underscore for any one
character; every other character stands for itself, without regard to ASCII case. -/
inductive Like : List Char → List Char → Prop
  | nil : Like [] []
  | percent (skipped : List Char) {pattern rest : List Char} :
      Like pattern rest → Like ('%' :: pattern) (skipped ++ rest)
  | underscore (c : Char) {pattern rest : List Char} :
      Like pattern rest → Like ('_' :: pattern) (c :: rest)
  | plain {c d : Char} {pattern rest : List Char} : c ≠ '%' → c ≠ '_' → c.toLower = d.toLower →
      Like pattern rest → Like (c :: pattern) (d :: rest)

namespace Like

variable {pattern text : List Char}

/-- The empty pattern matches only the empty text. -/
theorem nil_iff : Like [] text ↔ text = [] := by
  constructor
  · rintro ⟨⟩
    rfl
  · rintro rfl
    exact .nil

/-- A percent sign matches whatever it skips. -/
theorem percent_iff :
    Like ('%' :: pattern) text ↔ ∃ skipped rest, text = skipped ++ rest ∧ Like pattern rest := by
  constructor
  · intro h
    cases h with
    | percent skipped h => exact ⟨skipped, _, rfl, h⟩
    | plain hpercent => exact absurd rfl hpercent
  · rintro ⟨skipped, rest, rfl, h⟩
    exact .percent skipped h

/-- An underscore matches any one character. -/
theorem underscore_iff :
    Like ('_' :: pattern) text ↔ ∃ c rest, text = c :: rest ∧ Like pattern rest := by
  constructor
  · intro h
    cases h with
    | underscore c h => exact ⟨c, _, rfl, h⟩
    | plain _ hunderscore => exact absurd rfl hunderscore
  · rintro ⟨c, rest, rfl, h⟩
    exact .underscore c h

/-- Any other character matches itself, in capitals or not. -/
theorem plain_iff {c : Char} (hpercent : c ≠ '%') (hunderscore : c ≠ '_') :
    Like (c :: pattern) text ↔
      ∃ d rest, text = d :: rest ∧ c.toLower = d.toLower ∧ Like pattern rest := by
  constructor
  · intro h
    cases h with
    | percent => exact absurd rfl hpercent
    | underscore => exact absurd rfl hunderscore
    | plain _ _ hcase h => exact ⟨_, _, rfl, hcase, h⟩
  · rintro ⟨d, rest, rfl, hcase, h⟩
    exact .plain hpercent hunderscore hcase h

/-- A pattern that begins with plain characters is matched by these, in capitals or not, and what
matches the rest behind them. -/
theorem literal_append_iff {literal : List Char} (h : ∀ c ∈ literal, c ≠ '%' ∧ c ≠ '_') :
    Like (literal ++ pattern) text ↔ ∃ front rest, text = front ++ rest ∧
      front.map Char.toLower = literal.map Char.toLower ∧ Like pattern rest := by
  induction literal generalizing text with
  | nil => simp
  | cons c cs ih =>
    obtain ⟨⟨hpercent, hunderscore⟩, hcs⟩ := List.forall_mem_cons.mp h
    rw [List.cons_append, plain_iff hpercent hunderscore]
    simp only [ih hcs, List.map_cons]
    -- the first character, and then the rest of the literal by induction
    constructor
    · rintro ⟨d, _, rfl, hcase, front, rest, rfl, hfront, hrest⟩
      exact ⟨d :: front, rest, rfl, by rw [List.map_cons, hfront, hcase], hrest⟩
    · rintro ⟨front, rest, rfl, hfront, hrest⟩
      obtain ⟨d, front, rfl, hcase, hfront⟩ := List.map_eq_cons_iff.mp hfront
      exact ⟨d, front ++ rest, rfl, hcase.symm, front, rest, rfl, hfront, hrest⟩

end Like

namespace Catalog

/-! ## Registering tables one after another -/

/-- A catalog is determined by the tables that are found in it. -/
theorem ext_table? {catalog other : Catalog}
    (h : ∀ name, catalog.table? name = other.table? name) : catalog = other := by
  obtain ⟨tables, hsorted⟩ := catalog
  obtain ⟨others, hsorted'⟩ := other
  obtain rfl : tables = others := Ordered.ext hsorted hsorted' h
  rfl

/-- After a list of tables has been registered, each with its columns, these are found. -/
theorem table?_foldl_insert (columns : String → List Column) (names : List String)
    (catalog : Catalog) (name : String) :
    (names.foldl (fun catalog name => catalog.insert name (columns name)) catalog).table? name =
      if name ∈ names then some (columns name) else catalog.table? name := by
  induction names generalizing catalog with
  | nil => rfl
  | cons first rest ih =>
    rw [List.foldl_cons, ih]
    -- registered once more later, or not at all, the first table keeps its columns
    by_cases hfirst : name = first
    · subst hfirst
      simp [table?_insert_self]
    · simp [table?_insert_of_ne, hfirst]

end Catalog

namespace Database

/-! ## Names left out -/

/-- The pattern of names that the catalog leaves out. -/
def internalPattern : String := "sqlite_%"

/-- The name begins with `sqlite_`, in capitals or not, and so is the database's own. -/
def IsReserved (name : String) : Prop := "sqlite_".toList <+: name.toList.map Char.toLower

instance (name : String) : Decidable (IsReserved name) :=
  inferInstanceAs (Decidable (_ <+: _))

/-- The name begins with `sqlite`, in capitals or not, and goes on with another character than an
underscore. -/
def IsLookalike (name : String) : Prop :=
  ∃ front c rest, name.toList = front ++ c :: rest ∧
    front.map Char.toLower = "sqlite".toList ∧ c ≠ '_'

/-- A name matches the pattern if something stands behind `sqlite`. -/
theorem like_internalPattern_iff {name : String} :
    Like internalPattern.toList name.toList ↔ ∃ front c rest, name.toList = front ++ c :: rest ∧
      front.map Char.toLower = "sqlite".toList := by
  -- the underscore of the pattern is no literal one: it matches any character
  have hsplit : internalPattern.toList = "sqlite".toList ++ ['_', '%'] := rfl
  have hplain : ("sqlite".toList.all fun c => c ≠ '%' ∧ c ≠ '_') = true := rfl
  simp only [List.all_eq_true, decide_eq_true_iff] at hplain
  rw [hsplit, Like.literal_append_iff hplain]
  simp only [Like.underscore_iff, Like.percent_iff, Like.nil_iff]
  constructor
  · rintro ⟨front, _, hname, hfront, c, rest, rfl, -⟩
    exact ⟨front, c, rest, hname, hfront⟩
  · rintro ⟨front, c, rest, hname, hfront⟩
    exact ⟨front, c :: rest, hname, hfront, c, rest, rfl, rest, [], by simp, rfl⟩

/-- Lowercasing goes character by character. -/
theorem toList_lowercase (name : String) :
    (lowercase name).toList = name.toList.map Char.toLower :=
  String.toList_ofList

/-- The names left out are those that match the pattern. -/
theorem isInternal_iff {name : String} :
    isInternal name = true ↔ Like internalPattern.toList name.toList := by
  have hsix : "sqlite".toList.length = 6 := rfl
  rw [like_internalPattern_iff, isInternal, toList_lowercase, Bool.and_eq_true,
    List.isPrefixOf_iff_prefix, decide_eq_true_iff]
  generalize "sqlite".toList = word at hsix
  constructor
  · rintro ⟨⟨tail, htail⟩, hlength⟩
    obtain ⟨front, behind, hname, hfront, -⟩ := List.map_eq_append_iff.mp htail.symm
    cases behind with
    | nil =>
      -- the word alone is too short
      have hshort := congrArg List.length hfront
      rw [List.length_map] at hshort
      rw [hname, List.append_nil] at hlength
      omega
    | cons c rest => exact ⟨front, c, rest, hname, hfront⟩
  · -- the word with something behind it is a prefix, and not all of the name
    rintro ⟨front, c, rest, hname, rfl⟩
    rw [List.length_map] at hsix
    rw [hname, List.map_append, List.length_append, List.length_cons]
    exact ⟨List.prefix_append _ _, by omega⟩

/-- The names left out are the reserved ones and those that look alike. -/
theorem isInternal_iff_or {name : String} :
    isInternal name = true ↔ IsReserved name ∨ IsLookalike name := by
  have hsplit : "sqlite_".toList = "sqlite".toList ++ ['_'] := rfl
  rw [isInternal_iff, like_internalPattern_iff, IsReserved, hsplit, IsLookalike]
  generalize "sqlite".toList = word
  constructor
  · rintro ⟨front, c, rest, hname, rfl⟩
    -- what stands behind the word decides which of the two it is
    by_cases hc : c = '_'
    · subst hc
      rw [hname, List.map_append, List.map_cons]
      exact .inl ((List.prefix_append_right_inj _).mpr ⟨rest.map Char.toLower, rfl⟩)
    · exact .inr ⟨front, c, rest, hname, rfl, hc⟩
  · -- a name with the underscore, and one with any other character
    rintro (⟨tail, htail⟩ | ⟨front, c, rest, hname, hfront, -⟩)
    · rw [List.append_assoc] at htail
      obtain ⟨front, behind, hname, hfront, hbehind⟩ := List.map_eq_append_iff.mp htail.symm
      obtain ⟨c, rest, rfl, -⟩ := List.map_eq_cons_iff.mp hbehind
      exact ⟨front, c, rest, hname, hfront⟩
    · exact ⟨front, c, rest, hname, hfront⟩

/-! ## What the catalog holds -/

/-- No two relations have one name, which a database makes sure of. -/
def NamesDistinct (db : Database) : Prop := (db.relations.map fun r => lowercase r.1).Nodup

instance (db : Database) : Decidable db.NamesDistinct :=
  inferInstanceAs (Decidable (List.Nodup _))

/-- The name is one of a relation and does not match the pattern. -/
def IsListed (db : Database) (name : String) : Prop :=
  name ∈ db.relations.map Prod.fst ∧ ¬Like internalPattern.toList name.toList

/-- The columns of the relation called `name`. -/
def columnsNamed (db : Database) (name : String) : List Column :=
  ((db.relation? name).map columnsOf).getD []

variable {db : Database}

/-- Where names are distinct, a relation is found under its name. -/
theorem relation?_of_mem (h : db.NamesDistinct) {r : String × Relation} (hr : r ∈ db.relations) :
    db.relation? r.1 = some r.2 := by
  obtain ⟨before, after, hsplit⟩ := List.append_of_mem hr
  rw [NamesDistinct, hsplit, List.map_append, List.map_cons] at h
  refine Option.map_eq_some_iff.mpr ⟨r, ?_, rfl⟩
  refine List.find?_eq_some_iff_append.mpr ⟨beq_self_eq_true _, before, after, hsplit, ?_⟩
  intro e he
  -- an earlier relation of this name would be a second one
  have hne : lowercase e.1 ≠ lowercase r.1 := fun heq =>
    List.disjoint_of_nodup_append h (List.mem_map_of_mem he) (heq ▸ List.mem_cons_self)
  rw [sameName, beq_false_of_ne hne]
  rfl

/-- Under distinct names the columns found by a relation's name are its own. -/
theorem columnsNamed_of_mem (h : db.NamesDistinct) {r : String × Relation}
    (hr : r ∈ db.relations) : db.columnsNamed r.1 = columnsOf r.2 := by
  rw [columnsNamed, relation?_of_mem h hr]
  rfl

/-- The catalog holds the listed relations, each with its columns. -/
theorem table?_catalog_iff (h : db.NamesDistinct) {name : String} {columns : List Column} :
    db.catalog.table? name = some columns ↔ db.IsListed name ∧ columns = db.columnsNamed name := by
  -- each entry holds the columns of its own name
  have hentries : ∀ e ∈ (db.relations.filter fun r => !isInternal r.1).map
      (fun r => (r.1, columnsOf r.2)), e.2 = db.columnsNamed e.1 := by
    intro e he
    obtain ⟨r, hr, rfl⟩ := List.mem_map.mp he
    exact (columnsNamed_of_mem h (List.mem_of_mem_filter hr)).symm
  -- the keys are the listed names
  have hkeys : name ∈ ((db.relations.filter fun r => !isInternal r.1).map
      (fun r => (r.1, columnsOf r.2))).map Prod.fst ↔ db.IsListed name := by
    simp only [IsListed, ← isInternal_iff, List.map_map, List.mem_map, List.mem_filter,
      Function.comp_apply, Bool.not_eq_true', Bool.not_eq_true]
    constructor
    · rintro ⟨r, ⟨hr, hlisted⟩, rfl⟩
      exact ⟨⟨r, hr, rfl⟩, hlisted⟩
    · rintro ⟨⟨r, hr, rfl⟩, hlisted⟩
      exact ⟨r, ⟨hr, hlisted⟩, rfl⟩
  rw [← hkeys]
  exact Ordered.lookup_ofList_eq_some_iff (fun key value => value = db.columnsNamed key) hentries
    fun hvalue hvalue' => hvalue.trans hvalue'.symm

/-- The catalog names exactly the listed relations. -/
theorem mem_names_catalog_iff (h : db.NamesDistinct) {name : String} :
    name ∈ db.catalog.names ↔ db.IsListed name := by
  rw [Catalog.names, Ordered.mem_keys_iff, Option.isSome_iff_exists]
  constructor
  · rintro ⟨columns, hcolumns⟩
    exact ((table?_catalog_iff h).mp hcolumns).1
  · intro hlisted
    exact ⟨_, (table?_catalog_iff h).mpr ⟨hlisted, rfl⟩⟩

/-- Registering the listed relations one after another gives the catalog, in whatever order they
are listed and however often. -/
theorem foldl_insert_eq_catalog (h : db.NamesDistinct) {names : List String}
    (hnames : ∀ name, name ∈ names ↔ db.IsListed name) :
    names.foldl (fun catalog name => catalog.insert name (db.columnsNamed name)) Catalog.empty =
      db.catalog := by
  refine Catalog.ext_table? fun name => Option.ext fun columns => ?_
  rw [Catalog.table?_foldl_insert, table?_catalog_iff h, ← hnames]
  split
  · next hmem => rw [Option.some_inj, and_iff_right hmem, eq_comm]
  · next hnot => exact iff_of_false (Option.not_mem_none columns) fun h => hnot h.1

/-- The catalog of a database.  It holds the relations whose names do not match the pattern, each
with its stored columns in their order and the kinds of their declared types, and is what comes of
registering these one after another.  A relation that is not the database's own is missing exactly
if its name looks like one that is. -/
theorem catalog_introspects (h : db.NamesDistinct) :
    (∀ name, name ∈ db.catalog.names ↔ db.IsListed name) ∧
    (∀ r ∈ db.relations, db.IsListed r.1 → db.catalog.table? r.1 =
      some ((r.2.columns.filter fun c => !c.isComputed).map fun c =>
        ⟨c.name, ColumnKind.ofDeclaration c.declaredType⟩)) ∧
    (∀ names : List String, (∀ name, name ∈ names ↔ db.IsListed name) →
      names.foldl (fun catalog name => catalog.insert name (db.columnsNamed name))
        Catalog.empty = db.catalog) ∧
    ∀ r ∈ db.relations, ¬IsReserved r.1 → (r.1 ∈ db.catalog.names ↔ ¬IsLookalike r.1) := by
  refine ⟨fun name => mem_names_catalog_iff h, fun r hr hlisted => ?_,
    fun names => foldl_insert_eq_catalog h, fun r hr hreserved => ?_⟩
  · -- a listed relation is found with its own columns
    exact (table?_catalog_iff h).mpr ⟨hlisted, (columnsNamed_of_mem h hr).symm⟩
  · -- an unreserved name is left out only for its looks
    rw [mem_names_catalog_iff h, IsListed, and_iff_right (List.mem_map_of_mem hr), ← isInternal_iff,
      isInternal_iff_or, or_iff_right hreserved]

/-- A database with a table of its users, one that looks like its own and one of its own. -/
def threeTables : Database :=
  ⟨[("Orders", ⟨[⟨"id", "INTEGER", false⟩, ⟨"placed", "datetime", false⟩,
      ⟨"year", "INTEGER", true⟩], []⟩),
    ("SQLiteStats", ⟨[⟨"id", "INTEGER", false⟩], []⟩),
    ("sqlite_sequence", ⟨[⟨"name", "", false⟩, ⟨"seq", "", false⟩], []⟩)]⟩

/-- One of two tables of the users is missing. -/
theorem threeTables_catalog :
    "Orders" ∈ threeTables.catalog.names ∧
      threeTables.catalog.table? "Orders" = some [⟨"id", .integer⟩, ⟨"placed", .date⟩] ∧
      ¬IsReserved "SQLiteStats" ∧ "SQLiteStats" ∉ threeTables.catalog.names := by
  have hdistinct : threeTables.NamesDistinct := by decide
  obtain ⟨hnames, htables, -, husers⟩ := catalog_introspects hdistinct
  have hlisted : threeTables.IsListed "Orders" :=
    ⟨by decide, fun hlike => absurd (isInternal_iff.mpr hlike) (by decide)⟩
  -- the pattern's underscore takes the S
  have hlookalike : IsLookalike "SQLiteStats" :=
    ⟨"SQLite".toList, 'S', "tats".toList, by decide⟩
  have hreserved : ¬IsReserved "SQLiteStats" := by decide
  refine ⟨(hnames _).mpr hlisted, ?_, hreserved, fun hmem => ?_⟩
  · exact (htables _ List.mem_cons_self hlisted).trans (by decide +kernel)
  · exact (husers _ (List.mem_cons_of_mem _ List.mem_cons_self) hreserved).mp hmem hlookalike

end Database

end DashQuery
