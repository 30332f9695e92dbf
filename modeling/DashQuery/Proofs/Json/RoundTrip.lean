import DashQuery.Configuration
import DashQuery.Proofs.Ordered
import DashQuery.Query.Json

/-!
# Documents that are written and read back

Queries and configurations are written as records, with their fields in the order of
declaration.  A document that is held as a JSON value has each object's members in
the order of their keys instead (`Json.settle`).  Reading looks fields up by name, so
both forms are read back to what was written.  A filter is read back in its shape: a
list is never taken for a group, nor a condition for one.

## Key results

- `Json.fields?_settle`: the fields of a record do not depend on the order of its members
- `FilterNode.settle_toJson`: filters are written with their members in order
- `Query.ofJson?_settle_toJson`, `Configuration.ofJson?_settle_toJson`: the form in order of keys
- `documents_read_back`: queries and configurations are read back in both forms
-/

namespace DashQuery

/-! ## Records in the order of their keys -/

namespace Json

@[simp] theorem settle_null : null.settle = null := rfl

@[simp] theorem settle_int (n : Int) : (int n).settle = int n := rfl

@[simp] theorem settle_str (s : String) : (str s).settle = str s := rfl

/-- The items of a list are put in order one by one. -/
@[simp] theorem settle_arr (items : List Json) : (arr items).settle = arr (items.map settle) := by
  rw [settle, settleItems_eq_map]

/-- The members of an object are put in the order of their keys. -/
theorem settle_obj (members : List (String × Json)) :
    (obj members).settle = obj (Ordered.ofList (members.map fun m => (m.1, m.2.settle))) := by
  rw [settle, settleMembers_eq_map]

/-- Members that stand in order stay where they are. -/
theorem settle_obj_of_sorted {members : List (String × Json)} (h : Ordered.Sorted members) :
    (obj members).settle = obj (members.map fun m => (m.1, m.2.settle)) := by
  have hsettled : Ordered.Sorted (members.map fun m => (m.1, m.2.settle)) :=
    List.pairwise_map.mpr h
  rw [settle_obj, Ordered.ofList_eq_self hsettled]

/-- What may be missing is in order if it is where it is there. -/
theorem settle_ofOption {α : Type} {encode : α → Json} (h : ∀ a, (encode a).settle = encode a)
    (o : Option α) : (ofOption encode o).settle = ofOption encode o := by
  cases o with
  | none => rfl
  | some a => exact h a

/-- An object whose keys differ is a record for any names. -/
theorem fields?_obj_of_nodup {members : List (String × Json)}
    (h : (members.map Prod.fst).Nodup) (names : List String) :
    fields? names (obj members) = some (names.map fun name => members.lookup name) := by
  have honce : ∀ name, (members.filter fun m => m.1 == name).length ≤ 1 := by
    intro name
    have hcount := List.nodup_iff_count_le_one.mp h name
    rwa [List.count, List.countP_map, List.countP_eq_length_filter] at hcount
  rw [fields?.eq_def]
  exact if_pos (List.all_eq_true.mpr fun name _ => decide_eq_true (honce name))

/-- The fields of a record whose keys differ are the same, whatever the order of its members. -/
theorem fields?_settle {members : List (String × Json)} (h : (members.map Prod.fst).Nodup)
    (names : List String) :
    fields? names (obj members).settle =
      some (names.map fun name => (members.lookup name).map settle) := by
  have hkeys : ((members.map fun m => (m.1, m.2.settle)).map Prod.fst).Nodup := by
    rw [List.map_map]
    exact h
  -- putting members in order loses none of them, and a lookup does not see the order
  rw [settle_obj, fields?_obj_of_nodup (Ordered.nodup_keys (Ordered.sorted_ofList _))]
  simp only [Ordered.lookup_ofList_of_nodup hkeys, Ordered.lookup_map_snd]

end Json

/-! ## The parts of a query -/

/-- A selected column is read back from the order of keys. -/
theorem ColumnSelection.ofJson?_settle_toJson (c : ColumnSelection) :
    ofJson? c.toJson.settle = some c := by
  have ha := Json.optional_ofOption Aggregate.ofJson?_toJson
    (fun _ h => by simp [Aggregate.toJson] at h) c.aggregate
  have hsettle := Json.settle_ofOption (fun f : Aggregate => (rfl : f.toJson.settle = f.toJson))
    c.aggregate
  rw [ofJson?, toJson, Json.fields?_settle (by simp)]
  simp [Json.required, Json.string?_str, Json.optional_string, ha, hsettle, List.lookup_cons,
    Json.settle_ofOption Json.settle_str]

/-- A computed column is read back from the order of keys. -/
theorem ExpressionColumn.ofJson?_settle_toJson (c : ExpressionColumn) :
    ofJson? c.toJson.settle = some c := by
  rw [ofJson?, toJson, Json.fields?_settle (by simp)]
  simp [Json.required, Json.string?_str, List.lookup_cons]

/-- The two references of a join are read back. -/
theorem Join.onOfJson?_settle (left right : String) :
    onOfJson? (Json.obj [("left", .str left), ("right", .str right)]).settle =
      some (left, right) := by
  rw [onOfJson?, Json.fields?_settle (by simp)]
  simp [Json.required, Json.string?_str, List.lookup_cons]

/-- A join is read back from the order of keys. -/
theorem Join.ofJson?_settle_toJson (join : Join) : ofJson? join.toJson.settle = some join := by
  have hkind : (JoinKind.toJson join.kind).settle = JoinKind.toJson join.kind := rfl
  rw [ofJson?, toJson, Json.fields?_settle (by simp)]
  simp [Json.required, Json.string?_str, Json.optional_string, hkind, JoinKind.ofJson?_toJson,
    Json.settle_ofOption Json.settle_str, onOfJson?_settle, List.lookup_cons]

/-- A sort key is read back from the order of keys. -/
theorem SortKey.ofJson?_settle_toJson (k : SortKey) : ofJson? k.toJson.settle = some k := by
  rw [ofJson?, toJson, Json.fields?_settle (by simp)]
  simp [Json.required, Json.withDefault, Json.string?_str, List.lookup_cons]

/-! ## Filters -/

/-- A condition is written with its members in order. -/
theorem Condition.settle_toJson {c : Condition} (h : c.value.settle = c.value) :
    c.toJson.settle = c.toJson := by
  have hsorted : Ordered.Sorted
      [("column", Json.str c.column), ("operator", .str c.operator), ("value", c.value)] :=
    Ordered.sorted_iff.mpr (by decide : ["column", "operator", "value"].Pairwise (· < ·))
  rw [toJson, Json.settle_obj_of_sorted hsorted]
  simp [h]

namespace FilterNode

mutual

/-- A node is written with its members in order, if the values of its conditions are. -/
theorem settle_toJson : (n : FilterNode) → (∀ c ∈ n.leaves, c.value.settle = c.value) →
    n.toJson.settle = n.toJson
  | .condition c, h => Condition.settle_toJson (h c (by simp [leaves]))
  | .group combinator entries, h => by
    have hsorted : Ordered.Sorted
        [("combinator", combinator.toJson), ("conditions", .arr (toJsons entries))] :=
      Ordered.sorted_iff.mpr (by decide : ["combinator", "conditions"].Pairwise (· < ·))
    have hcombinator : combinator.toJson.settle = combinator.toJson := rfl
    rw [toJson, Json.settle_obj_of_sorted hsorted]
    -- the conditions of the entries are those of the group, so the induction goes on with them
    simp [hcombinator, settle_toJsons entries h]

/-- Several nodes are written with their members in order. -/
theorem settle_toJsons : (ns : List FilterNode) →
    (∀ c ∈ leavesOf ns, c.value.settle = c.value) → (toJsons ns).map Json.settle = toJsons ns
  | [], _ => rfl
  | n :: ns, h => by
    have hn := settle_toJson n fun c hc => h c (List.mem_append_left _ hc)
    have hns := settle_toJsons ns fun c hc => h c (List.mem_append_right _ hc)
    rw [toJsons, List.map_cons, hn, hns]

end

end FilterNode

/-- The filters of a query are written with their members in order. -/
theorem Filters.settle_toJson {filters : Filters}
    (h : ∀ c ∈ filters.toGroup.leaves, c.value.settle = c.value) :
    filters.toJson.settle = filters.toJson := by
  cases filters with
  | group g => exact FilterNode.settle_toJson g.toNode h
  | list entries => rw [toJson, Json.settle_arr, FilterNode.settle_toJsons entries h]

/-- A condition is never read as a group. -/
theorem FilterGroup.ofJson?_condition_toJson (c : Condition) : ofJson? c.toJson = none := by
  simp [Condition.toJson, ofJson?, ofMembers?, Json.fields?, Json.required, List.lookup_cons]

/-! ## Queries -/

/-- Items that are each read back from the order of keys are read back as a list. -/
theorem Json.list?_settle_map {α : Type} {decode : Json → Option α} {encode : α → Json}
    (h : ∀ a, decode (encode a).settle = some a) (xs : List α) :
    Json.list? decode (Json.arr (xs.map encode)).settle = some xs := by
  rw [Json.settle_arr, List.map_map]
  exact Json.list?_map h xs

/-- Filters are not written as `null`. -/
theorem Filters.toJson_ne_null (filters : Filters) : filters.toJson ≠ .null := by
  cases filters <;>
    simp [toJson, FilterGroup.toJson, FilterGroup.toNode, FilterNode.toJson]

/-- The values in the conditions of a query hold their members in order of their keys. -/
def Query.Settled (q : Query) : Prop :=
  ∀ filters ∈ q.filters, ∀ c ∈ filters.toGroup.leaves, c.value.settle = c.value

/-- The whole numbers of a query are written as they are. -/
theorem Json.settle_word (o : Option UInt64) :
    (Json.ofOption (fun n => .int n.toNat) o).settle = Json.ofOption (fun n => .int n.toNat) o :=
  Json.settle_ofOption (fun _ => rfl) o

/-- A query is read back from the order of keys, if the values in its conditions are in that order.
-/
theorem Query.ofJson?_settle_toJson {q : Query} (h : q.Settled) :
    ofJson? q.toJson.settle = some q := by
  -- filters are written in order, so putting them in order changes nothing
  have hfilters : (Json.ofOption Filters.toJson q.filters).settle =
      Json.ofOption Filters.toJson q.filters := by
    cases hq : q.filters with
    | none => rfl
    | some filters => exact Filters.settle_toJson (h filters hq)
  have hread := Json.optional_ofOption Filters.ofJson?_toJson Filters.toJson_ne_null q.filters
  have hnames : Json.list? Json.string? (Json.arr (q.groupBy.map .str)).settle =
      some q.groupBy := Json.list?_settle_map (fun name => Json.string?_str name) q.groupBy
  -- field by field
  rw [ofJson?, toJson, Json.fields?_settle (by simp)]
  simp [Json.required, Json.withDefault, Json.string?_str,
    Json.list?_settle_map ColumnSelection.ofJson?_settle_toJson,
    Json.list?_settle_map ExpressionColumn.ofJson?_settle_toJson,
    Json.list?_settle_map Join.ofJson?_settle_toJson,
    Json.list?_settle_map SortKey.ofJson?_settle_toJson,
    hnames, Json.settle_word, Json.optional_word, hfilters, hread, List.lookup_cons,
    -Json.settle_arr]

/-! ## Configurations -/

/-- A column is written with its members in order. -/
theorem Column.settle_toJson (column : Column) : column.toJson.settle = column.toJson := by
  have hsorted : Ordered.Sorted
      [("name", Json.str column.name), ("type", column.kind.toJson)] :=
    Ordered.sorted_iff.mpr (by decide : ["name", "type"].Pairwise (· < ·))
  have hkind : column.kind.toJson.settle = column.kind.toJson := rfl
  rw [toJson, Json.settle_obj_of_sorted hsorted]
  simp [hkind]

/-- A catalog is written in the order of its names. -/
theorem Catalog.settle_toJson (catalog : Catalog) : catalog.toJson.settle = catalog.toJson := by
  have hsorted : Ordered.Sorted
      (catalog.tables.map fun t => (t.1, Json.arr (t.2.map Column.toJson))) :=
    List.pairwise_map.mpr catalog.sorted
  rw [toJson, Json.settle_obj_of_sorted hsorted]
  simp [Function.comp_def, Column.settle_toJson]

/-- Settings are read back from the order of keys. -/
theorem Settings.ofJson?_settle_toJson (s : Settings) : ofJson? s.toJson.settle = some s := by
  have hpolicy : s.expressionPolicy.toJson.settle = s.expressionPolicy.toJson := rfl
  rw [ofJson?, toJson, Json.fields?_settle (by simp)]
  simp [Json.withDefault_some, Json.word?_ofNat, hpolicy, ExpressionPolicy.ofJson?_toJson,
    List.lookup_cons]

/-- A configuration is read back from the order of keys. -/
theorem Configuration.ofJson?_settle_toJson (c : Configuration) :
    ofJson? c.toJson.settle = some c := by
  rw [ofJson?, toJson, Json.fields?_settle (by simp)]
  simp [Json.withDefault_some, Catalog.settle_toJson, Catalog.ofJson?_toJson,
    Settings.ofJson?_settle_toJson, List.lookup_cons]

/-! ## What is written is read back -/

/-- The query is read back as it was written. -/
structure Query.ReadsBack (q : Query) : Prop where
  /-- From the record in the order of declaration. -/
  declared : Query.ofJson? q.toJson = some q
  /-- From the value in the order of keys, if the values in its conditions are in that order. -/
  settled : q.Settled → Query.ofJson? q.toJson.settle = some q

/-- The configuration is read back as it was written. -/
structure Configuration.ReadsBack (c : Configuration) : Prop where
  /-- From the record in the order of declaration. -/
  declared : Configuration.ofJson? c.toJson = some c
  /-- From the value in the order of keys. -/
  settled : Configuration.ofJson? c.toJson.settle = some c

/-- The filters of a query are read back in their shape. -/
structure Filters.ReadsBack (filters : Filters) : Prop where
  /-- They are read as what was written. -/
  read : Filters.ofJson? filters.toJson = some filters
  /-- A list of them is not read as a group. -/
  list_no_group : ∀ entries, filters = .list entries → FilterGroup.ofJson? filters.toJson = none

/-- The node of a filter is read back in its shape. -/
structure FilterNode.ReadsBack (node : FilterNode) : Prop where
  /-- It is read as what was written. -/
  read : FilterNode.ofJson? node.toJson = some node
  /-- A condition is not read as a group. -/
  condition_no_group : ∀ c, node = .condition c → FilterGroup.ofJson? node.toJson = none

/-- Queries and configurations are read back as they were written, from records in the order of
declaration and from values in the order of their keys; so is every filter, in its shape.  No list
is read as a group, and no condition is. -/
theorem documents_read_back :
    (∀ q : Query, q.ReadsBack) ∧ (∀ c : Configuration, c.ReadsBack) ∧
      (∀ filters : Filters, filters.ReadsBack) ∧ ∀ node : FilterNode, node.ReadsBack := by
  refine ⟨fun q => ⟨q.ofJson?_toJson, Query.ofJson?_settle_toJson⟩,
    fun c => ⟨c.ofJson?_toJson, c.ofJson?_settle_toJson⟩,
    fun filters => ⟨filters.ofJson?_toJson, ?_⟩, fun node => ⟨node.ofJson?_toJson, ?_⟩⟩
  · rintro entries rfl
    exact FilterGroup.ofJson?_toJsons entries
  · rintro c rfl
    exact FilterGroup.ofJson?_condition_toJson c

/-- Two filters in a list, which could be taken for a combinator and its entries: a group that
holds an empty group, and a condition on an object. -/
def twoFilters : Query where
  sourceTable := "Referenda"
  columns := [⟨"status", none, none⟩, ⟨"amount", some "total", some .sum⟩]
  expressionColumns := []
  joins := [⟨.left, "Categories", some "c", "Referenda.category_id", "c.id"⟩]
  filters := some (.list [
    .group .or [.group .and [], .condition ⟨"status", "IS NULL", .null⟩],
    .condition ⟨"amount", "BETWEEN", .obj [("from", .int 1), ("to", .arr [.int 5])]⟩])
  groupBy := ["status"]
  orderBy := [⟨"total", "DESC"⟩]
  limit := some 0
  offset := none

/-- Both filters come back as they were. -/
theorem twoFilters_read_back :
    twoFilters.Settled ∧ Query.ofJson? twoFilters.toJson.settle = some twoFilters := by
  have hsettled : twoFilters.Settled := by
    have hobject : Ordered.Sorted [("from", Json.int 1), ("to", .arr [.int 5])] :=
      Ordered.sorted_iff.mpr (by decide : ["from", "to"].Pairwise (· < ·))
    simp [Query.Settled, twoFilters, Filters.toGroup, FilterGroup.leaves, FilterNode.leavesOf,
      FilterNode.leaves, Json.settle_obj_of_sorted hobject]
  exact ⟨hsettled, (documents_read_back.1 twoFilters).settled hsettled⟩

end DashQuery
