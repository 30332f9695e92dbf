import DashQuery.Filter.Predicate
import DashQuery.Proofs.Binding.Slots
import DashQuery.Proofs.Compile.Steps
import DashQuery.Proofs.Lexing.References

/-!
# What a predicate shows

A condition denotes an `Atom`: a column reference, an operator and the values it
binds.  A filter is shown as the slots of its atoms, left to right, with keywords
between siblings and parentheses around nested groups; groups without a condition
are left out.

## Key results

- `Condition.tail_eq`: what follows the column is a function of the bound values
- `Condition.shows_predicate`: the predicate of a condition shows its atom
- `FilterGroup.shows_predicate`: the predicate of a filter shows the filter
- `FilterGroup.params_slots`: the values shown are those of the conditions, in order
- `FilterGroup.slots_eq_nil_iff`: a filter shows nothing exactly if it has no condition
-/

namespace DashQuery

namespace Operator

/-- The words of an operator. -/
def words : Operator → List Word
  | eq => [.symbol "="]
  | notEq => [.symbol "!="]
  | gt => [.symbol ">"]
  | lt => [.symbol "<"]
  | gte => [.symbol ">="]
  | lte => [.symbol "<="]
  | like => [.keyword "LIKE"]
  | notLike => [.keyword "NOT", .keyword "LIKE"]
  | isIn => [.keyword "IN"]
  | notIn => [.keyword "NOT", .keyword "IN"]
  | isNull => [.keyword "IS", .keyword "NULL"]
  | isNotNull => [.keyword "IS", .keyword "NOT", .keyword "NULL"]
  | between => [.keyword "BETWEEN"]

/-- The values that a condition with this operator binds: none for a null test, those of a list in
order for a membership test and a range, and one for any other. -/
def boundValues (op : Operator) (value : Json) : List Param :=
  match op with
  | isNull | isNotNull => []
  | isIn | notIn | between =>
    match value with
    | .arr values => values.filterMap Param.ofJson?
    | _ => []
  | eq | notEq | gt | lt | gte | lte | like | notLike => (Param.ofJson? value).toList

/-- How many values the operator takes. -/
def Fits (op : Operator) (values : List Param) : Prop :=
  match op with
  | isNull | isNotNull => values = []
  | isIn | notIn => values ≠ []
  | between => values.length = 2
  | eq | notEq | gt | lt | gte | lte | like | notLike => values.length = 1

/-- How the values stand behind the operator. -/
def operands (op : Operator) (values : List Param) : List Slot :=
  match op with
  | isIn | notIn =>
    enclose ([Slot.fixed .comma].intercalate (values.map fun p => [Slot.value p]))
  | between => [Slot.fixed (.keyword "AND")].intercalate (values.map fun p => [Slot.value p])
  | isNull | isNotNull | eq | notEq | gt | lt | gte | lte | like | notLike =>
    values.map Slot.value

/-- The text of an operator can be read as its words. -/
theorem reads_text (op : Operator) : Reads op.text op.words := by
  -- a comparison is one lexeme, the others are keywords
  have hsymbol : ∀ c t, isBlank c = false → Lexeme.read c t = ⟨.operator, c :: t, []⟩ →
      Reads (String.ofList (c :: t)) [.symbol (String.ofList (c :: t))] := fun c t hb hread =>
    reads_lexeme String.toList_ofList hb hread (Word.isUnclosed_of_kind (by simp))
  cases op with
  | eq => exact hsymbol '=' [] (by decide) rfl
  | notEq => exact hsymbol '!' ['='] (by decide) rfl
  | gt => exact hsymbol '>' [] (by decide) rfl
  | lt => exact hsymbol '<' [] (by decide) rfl
  | gte => exact hsymbol '>' ['='] (by decide) rfl
  | lte => exact hsymbol '<' ['='] (by decide) rfl
  | like => exact reads_keyword "LIKE"
  | notLike => exact (reads_keyword "NOT").space (reads_keyword "LIKE")
  | isIn => exact reads_keyword "IN"
  | notIn => exact (reads_keyword "NOT").space (reads_keyword "IN")
  | isNull => exact (reads_keyword "IS").space (reads_keyword "NULL")
  | isNotNull =>
    exact ((reads_keyword "IS").space (reads_keyword "NOT")).space (reads_keyword "NULL")
  | between => exact reads_keyword "BETWEEN"

/-- Every operator is written with a word. -/
theorem words_ne_nil (op : Operator) : op.words ≠ [] := by cases op <;> simp [words]

/-- No operator is written with a placeholder. -/
theorem placeholder_not_mem_words (op : Operator) : Word.placeholder ∉ op.words := by
  cases op <;> decide

/-- The values are all that the operands bind. -/
theorem params_operands (op : Operator) (values : List Param) :
    (op.operands values).filterMap Slot.param? = values := by
  -- words between values bind nothing
  have hsingle : ∀ w, (([Slot.fixed w].intercalate
      (values.map fun p => [Slot.value p])).filterMap Slot.param?) = values := by
    intro w
    rw [filterMap_intercalate rfl, List.flatMap_map]
    simp [Slot.param?]
  have hmap : (values.map Slot.value).filterMap Slot.param? = values := by
    rw [List.filterMap_map]
    simp [Function.comp_def, Slot.param?]
  cases op with
  | isIn | notIn => exact (params_enclose _).trans (hsingle _)
  | between => exact hsingle _
  | isNull | isNotNull | eq | notEq | gt | lt | gte | lte | like | notLike => exact hmap

/-- The text behind the operator, with its values. -/
def placed (op : Operator) (values : List Param) : BoundText :=
  match op with
  | isNull | isNotNull => .empty
  | isIn | notIn => (BoundText.paramList values).parenthesized
  | between =>
    match values with
    | [low, high] => ((BoundText.param low).andThen (.raw "AND")).andThen (.param high)
    | _ => .empty
  | eq | notEq | gt | lt | gte | lte | like | notLike =>
    match values with
    | [value] => .param value
    | _ => .empty

/-- Behind the operator stand its operands, if it has as many values as it takes. -/
theorem shows_placed {op : Operator} {values : List Param} (h : op.Fits values) :
    (op.placed values).Shows (op.operands values) := by
  cases op with
  | isNull | isNotNull =>
    -- no value, and nothing behind the operator
    obtain rfl : values = [] := h
    exact BoundText.Shows.empty
  | isIn | notIn => exact (BoundText.Shows.paramList h).parenthesized
  | between =>
    obtain ⟨low, high, rfl⟩ := List.length_eq_two.mp h
    have hand := BoundText.Shows.raw (reads_keyword "AND") (by simp) (by decide)
    exact ((BoundText.Shows.param low).andThen hand).andThen (BoundText.Shows.param high)
  | eq | notEq | gt | lt | gte | lte | like | notLike =>
    obtain ⟨value, rfl⟩ := List.length_eq_one_iff.mp h
    exact BoundText.Shows.param value

end Operator

/-- What a condition says: a comparison of a column with values. -/
structure Atom where
  ref : ColumnRef
  op : Operator
  values : List Param
deriving DecidableEq

/-- The atom with its values in place. -/
def Atom.slots (a : Atom) : List Slot :=
  (a.ref.words ++ a.op.words).map Slot.fixed ++ a.op.operands a.values

namespace Condition

/-- The atom of a condition: its column as it is written, its operator and its values; none if it
names no operator. -/
def atom? (scope : Scope) (c : Condition) : Option Atom :=
  match Operator.parse c.operator with
  | .ok op => some ⟨ColumnRef.ofName (scope.resolve c.column), op, op.boundValues c.value⟩
  | .error _ => none

/-- The values that a condition binds, in order. -/
def boundValues (c : Condition) : List Param :=
  match Operator.parse c.operator with
  | .ok op => op.boundValues c.value
  | .error _ => []

/-- The condition with its values in place. -/
def slots (scope : Scope) (c : Condition) : List Slot :=
  match c.atom? scope with
  | some a => a.slots
  | none => []

end Condition

namespace FilterNode

mutual

/-- A node with its values in place. -/
def slots (scope : Scope) : FilterNode → List Slot
  | .condition c => c.slots scope
  | .group combinator entries =>
    enclose (joinSlots (.keyword combinator.keyword) (slotsOf scope entries))

/-- Several nodes with their values in place, one list for each. -/
def slotsOf (scope : Scope) : List FilterNode → List (List Slot)
  | [] => []
  | n :: ns => slots scope n :: slotsOf scope ns

end

end FilterNode

/-- A filter with its values in place. -/
def FilterGroup.slots (scope : Scope) (g : FilterGroup) : List Slot :=
  joinSlots (.keyword g.combinator.keyword) (FilterNode.slotsOf scope g.entries)

/-! ## The predicate of a condition -/

namespace Condition

/-- A value is a scalar if it can be bound. -/
theorem scalar_eq_ok_iff {c : Condition} {op : Operator} {value : Json} {p : Param} :
    c.scalar op value = .ok p ↔ Param.ofJson? value = some p := by
  unfold scalar
  cases Param.ofJson? value <;> simp

/-- The values of a list are all scalars, and none is left out. -/
theorem scalars_eq_ok {c : Condition} {op : Operator} {values : List Json} {ps : List Param}
    (h : c.scalars op values = .ok ps) :
    ps.length = values.length ∧ values.filterMap Param.ofJson? = ps := by
  induction values generalizing ps with
  | nil =>
    rw [← Except.ok.inj h]
    exact ⟨rfl, rfl⟩
  | cons value values ih =>
    rw [scalars] at h
    obtain ⟨p, hp, qs, hqs, hps⟩ := by simpa only [bind_eq_ok_iff] using h
    rw [pure_eq_ok_iff.mp hps]
    obtain ⟨hlen, hvalues⟩ := ih hqs
    -- the first value is bound, and so are the others
    exact ⟨by rw [List.length_cons, List.length_cons, hlen],
      by rw [List.filterMap_cons_some (scalar_eq_ok_iff.mp hp), hvalues]⟩

/-- When a condition has a predicate: its column is valid, legal, and valid as it is written, and
operator and values fit. -/
theorem predicate_eq_ok_iff {scope : Scope} {c : Condition} {b : BoundText} :
    c.predicate scope = .ok b ↔
      Name.isValid c.column = true ∧ scope.contains c.column = true ∧
        Name.isValid (scope.resolve c.column) = true ∧
        ∃ op tail, Operator.parse c.operator = .ok op ∧ c.tail op = .ok tail ∧
          b = (BoundText.raw (Name.quoteReference (scope.resolve c.column) ++ " " ++
            op.text)).andThen tail := by
  unfold predicate
  simp only [bind_eq_ok_iff, Unique.exists_iff, PUnit.default_eq_unit, Name.check_eq_ok_iff,
    Scope.check_eq_ok_iff, pure_eq_ok_iff]
  -- the same checks, with the operator named before what it needs
  constructor
  · rintro ⟨hv, hc, hr, op, hop, tail, htail, rfl⟩
    exact ⟨hv, hc, hr, op, tail, hop, htail, rfl⟩
  · rintro ⟨hv, hc, hr, op, tail, hop, htail, rfl⟩
    exact ⟨hv, hc, hr, op, hop, tail, htail, rfl⟩

/-- The list of a membership test is not empty, and all its values are bound. -/
theorem tail_membership {c : Condition} {op : Operator} {b : BoundText}
    (hop : op = .isIn ∨ op = .notIn) (h : c.tail op = .ok b) :
    ∃ values, c.value = .arr values ∧ values ≠ [] ∧
      (op.boundValues c.value).length = values.length ∧
      b = (BoundText.paramList (op.boundValues c.value)).parenthesized := by
  have hvalues : ∀ values, op.boundValues (.arr values) = values.filterMap Param.ofJson? := by
    rcases hop with rfl | rfl <;> exact fun _ => rfl
  -- an empty list and anything that is no list are refused
  obtain ⟨value, values, ps, hv, hps, hb⟩ : ∃ value values ps, c.value = .arr (value :: values) ∧
      c.scalars op (value :: values) = .ok ps ∧ b = (BoundText.paramList ps).parenthesized := by
    rcases hop with rfl | rfl
    all_goals
      simp only [tail] at h
      split at h
      · cases h
      · next value values hv =>
        obtain ⟨ps, hps, hb⟩ := bind_eq_ok_iff.mp h
        exact ⟨value, values, ps, hv, hps, pure_eq_ok_iff.mp hb⟩
      · cases h
  obtain ⟨hlength, hps⟩ := scalars_eq_ok hps
  rw [hv, hvalues, hps]
  exact ⟨_, rfl, List.cons_ne_nil _ _, hlength, hb⟩

/-- What follows the column is a function of the operator and the bound values, and there are as
many of them as the operator takes. -/
theorem tail_eq {c : Condition} {op : Operator} {b : BoundText} (h : c.tail op = .ok b) :
    op.Fits (op.boundValues c.value) ∧ b = op.placed (op.boundValues c.value) := by
  cases op with
  | isNull | isNotNull => exact ⟨rfl, (Except.ok.inj h).symm⟩
  | eq | notEq | gt | lt | gte | lte =>
    obtain ⟨p, hp, hb⟩ := bind_eq_ok_iff.mp h
    simp only [Operator.Fits, Operator.boundValues, scalar_eq_ok_iff.mp hp]
    exact ⟨rfl, pure_eq_ok_iff.mp hb⟩
  | like | notLike =>
    simp only [tail] at h
    split at h
    · next pattern hv =>
      rw [← Except.ok.inj h, hv]
      exact ⟨rfl, rfl⟩
    · cases h
  -- an empty list was refused, so there is a value between the parentheses
  | isIn | notIn =>
    obtain ⟨values, -, hne, hlength, hb⟩ := tail_membership (by decide) h
    exact ⟨List.ne_nil_of_length_pos (hlength ▸ List.length_pos_of_ne_nil hne), hb⟩
  | between =>
    simp only [tail] at h
    split at h
    · next low high hv =>
      obtain ⟨p, hp, h⟩ := bind_eq_ok_iff.mp h
      obtain ⟨r, hr, hb⟩ := bind_eq_ok_iff.mp h
      simp only [Operator.Fits, Operator.boundValues, hv,
        List.filterMap_cons_some (scalar_eq_ok_iff.mp hp),
        List.filterMap_cons_some (scalar_eq_ok_iff.mp hr)]
      exact ⟨rfl, pure_eq_ok_iff.mp hb⟩
    all_goals cases h

/-- A condition that has a predicate denotes an atom, with as many values as its operator takes. -/
theorem atom?_of_predicate {scope : Scope} {c : Condition} {b : BoundText}
    (h : c.predicate scope = .ok b) :
    ∃ a, c.atom? scope = some a ∧ a.op.Fits a.values := by
  obtain ⟨-, -, -, op, tail, hop, htail, -⟩ := predicate_eq_ok_iff.mp h
  refine ⟨⟨ColumnRef.ofName (scope.resolve c.column), op, op.boundValues c.value⟩, ?_, ?_⟩
  · simp only [atom?, hop]
  · exact (tail_eq htail).1

/-- The predicate of a condition shows its atom. -/
theorem shows_predicate {scope : Scope} {c : Condition} {b : BoundText}
    (h : c.predicate scope = .ok b) : b.Shows (c.slots scope) := by
  obtain ⟨-, -, hvalid, op, tail, hop, htail, rfl⟩ := predicate_eq_ok_iff.mp h
  simp only [slots, atom?, hop, Atom.slots]
  obtain ⟨hfits, rfl⟩ := tail_eq htail
  -- the column and the operator in front are fixed text, the tail holds the values
  refine BoundText.Shows.andThen (BoundText.Shows.raw ?_ ?_ ?_) (Operator.shows_placed hfits)
  · rw [Name.quoteReference_eq_text]
    exact (ColumnRef.reads_text (ColumnRef.isValid_ofName hvalid)).space op.reads_text
  · exact List.append_ne_nil_of_right_ne_nil _ op.words_ne_nil
  · rw [List.mem_append, not_or]
    exact ⟨ColumnRef.placeholder_not_mem_words _, op.placeholder_not_mem_words⟩

/-- A condition that has a predicate is written somehow. -/
theorem slots_ne_nil {scope : Scope} {c : Condition} {b : BoundText}
    (h : c.predicate scope = .ok b) : c.slots scope ≠ [] := by
  obtain ⟨a, hatom, -⟩ := atom?_of_predicate h
  simp only [slots, hatom, Atom.slots, ne_eq, List.append_eq_nil_iff, List.map_eq_nil_iff]
  exact fun hnil => a.op.words_ne_nil hnil.1.2

/-- The values shown are those that the condition binds. -/
theorem params_slots (scope : Scope) (c : Condition) :
    (c.slots scope).filterMap Slot.param? = c.boundValues := by
  unfold slots atom? boundValues
  cases Operator.parse c.operator with
  | error e => rfl
  | ok op =>
    simp only [Atom.slots, List.filterMap_append, Slot.filterMap_param?_fixed, op.params_operands,
      List.nil_append]

end Condition

/-! ## The predicate of a filter -/

/-- A group's keyword stands between its entries with a blank on both sides. -/
theorem Combinator.reads_separator (combinator : Combinator) {a b : String} {u v : List Word}
    (ha : Reads a u) (hb : Reads b v) :
    Reads (a ++ combinator.separator ++ b) (u ++ [Word.keyword combinator.keyword] ++ v) := by
  have hword : Reads combinator.keyword [Word.keyword combinator.keyword] := by
    cases combinator
    · exact reads_keyword "AND"
    · exact reads_keyword "OR"
  have hpadded := (ha.space hword).space hb
  simpa only [Combinator.separator, String.append_assoc] using hpadded

/-- No combinator is written as a placeholder. -/
theorem Combinator.keyword_ne_placeholder (combinator : Combinator) :
    Word.keyword combinator.keyword ≠ Word.placeholder := by
  simp [Word.keyword, Word.placeholder]

namespace FilterNode

/-- A group has a predicate if it keeps the bounds and its entries have theirs, which it joins. -/
theorem predicate_group_eq_ok_iff {bounds : FilterBounds} {scope : Scope} {depth : Nat}
    {combinator : Combinator} {entries : List FilterNode} {b : BoundText} :
    predicate bounds scope depth (.group combinator entries) = .ok b ↔
      bounds.check (depth + 1) entries = .ok () ∧
        ∃ parts, predicates bounds scope (depth + 1) entries = .ok parts ∧
          b = (BoundText.join combinator.separator parts).parenthesized := by
  rw [predicate]
  simp only [bind_eq_ok_iff, Unique.exists_iff, PUnit.default_eq_unit, pure_eq_ok_iff]

/-- Several nodes have predicates if the first has one and the others do. -/
theorem predicates_cons_eq_ok_iff {bounds : FilterBounds} {scope : Scope} {depth : Nat}
    {n : FilterNode} {ns : List FilterNode} {bs : List BoundText} :
    predicates bounds scope depth (n :: ns) = .ok bs ↔
      ∃ part parts, predicate bounds scope depth n = .ok part ∧
        predicates bounds scope depth ns = .ok parts ∧ bs = part :: parts := by
  rw [predicates]
  simp only [bind_eq_ok_iff, pure_eq_ok_iff]
  constructor
  · rintro ⟨part, hpart, parts, hparts, rfl⟩
    exact ⟨part, parts, hpart, hparts, rfl⟩
  · rintro ⟨part, parts, hpart, hparts, rfl⟩
    exact ⟨part, hpart, parts, hparts, rfl⟩

mutual

/-- The predicate of a node shows the node. -/
theorem shows_predicate {bounds : FilterBounds} {scope : Scope} {depth : Nat} :
    ∀ (n : FilterNode) {b : BoundText}, predicate bounds scope depth n = .ok b →
      b.Shows (slots scope n)
  | .condition c, b, h => by
    rw [predicate] at h
    rw [slots]
    exact c.shows_predicate h
  | .group combinator entries, b, h => by
    obtain ⟨-, parts, hparts, rfl⟩ := predicate_group_eq_ok_iff.mp h
    rw [slots]
    -- entries that show nothing drop out of the text and of the slots alike
    exact (BoundText.Shows.join combinator.reads_separator combinator.keyword_ne_placeholder
      (shows_predicates entries hparts)).parenthesized

/-- The predicates of several nodes show the nodes, one by one. -/
theorem shows_predicates {bounds : FilterBounds} {scope : Scope} {depth : Nat} :
    ∀ (ns : List FilterNode) {bs : List BoundText}, predicates bounds scope depth ns = .ok bs →
      List.Forall₂ BoundText.Shows bs (slotsOf scope ns)
  | [], bs, h => by
    rw [predicates] at h
    rw [← Except.ok.inj h, slotsOf]
    exact .nil
  | n :: ns, bs, h => by
    -- the first node, and then the others
    obtain ⟨part, parts, hpart, hparts, rfl⟩ := predicates_cons_eq_ok_iff.mp h
    rw [slotsOf]
    exact .cons (shows_predicate n hpart) (shows_predicates ns hparts)

/-- Every condition of a node that has a predicate has one itself. -/
theorem leaves_checked {bounds : FilterBounds} {scope : Scope} {depth : Nat} :
    ∀ (n : FilterNode) {b : BoundText}, predicate bounds scope depth n = .ok b →
      ∀ c ∈ leaves n, ∃ b, c.predicate scope = .ok b
  | .condition c, b, h => by
    rw [predicate] at h
    intro c' hc'
    rw [leaves, List.mem_singleton] at hc'
    exact ⟨b, hc' ▸ h⟩
  | .group combinator entries, b, h => by
    -- the conditions of a group are those of its entries
    obtain ⟨-, parts, hparts, -⟩ := predicate_group_eq_ok_iff.mp h
    rw [leaves]
    exact leavesOf_checked entries hparts

/-- Every condition of several nodes that have predicates has one itself. -/
theorem leavesOf_checked {bounds : FilterBounds} {scope : Scope} {depth : Nat} :
    ∀ (ns : List FilterNode) {bs : List BoundText}, predicates bounds scope depth ns = .ok bs →
      ∀ c ∈ leavesOf ns, ∃ b, c.predicate scope = .ok b
  | [], _, _ => by simp [leavesOf]
  | n :: ns, bs, h => by
    obtain ⟨part, parts, hpart, hparts, -⟩ := predicates_cons_eq_ok_iff.mp h
    intro c hc
    rw [leavesOf, List.mem_append] at hc
    exact hc.elim (leaves_checked n hpart c) (leavesOf_checked ns hparts c)

end

/-! ## What the slots of a filter hold -/

mutual

/-- The values shown are those of the conditions, left to right. -/
theorem params_slots (scope : Scope) : ∀ n : FilterNode,
    (slots scope n).filterMap Slot.param? = (leaves n).flatMap Condition.boundValues
  | .condition c => by
    rw [slots, leaves, List.flatMap_singleton]
    exact c.params_slots scope
  | .group combinator entries => by
    rw [slots, leaves, params_enclose, params_joinSlots]
    exact params_slotsOf scope entries

/-- Several nodes bind the values of their conditions, in order. -/
theorem params_slotsOf (scope : Scope) : ∀ ns : List FilterNode,
    (slotsOf scope ns).flatMap (List.filterMap Slot.param?) =
      (leavesOf ns).flatMap Condition.boundValues
  | [] => rfl
  | n :: ns => by
    rw [slotsOf, leavesOf, List.flatMap_cons, List.flatMap_append, params_slots scope n,
      params_slotsOf scope ns]

end

mutual

/-- If every condition shows something, a node shows nothing only without conditions. -/
theorem slots_eq_nil_iff {scope : Scope} : ∀ (n : FilterNode),
    (∀ c ∈ leaves n, c.slots scope ≠ []) → (slots scope n = [] ↔ leaves n = [])
  | .condition c, h => by
    have hc := h c (by simp [leaves])
    simp [slots, leaves, hc]
  | .group combinator entries, h => by
    rw [leaves] at h ⊢
    rw [slots, enclose_eq_nil_iff, joinSlots_eq_nil_iff]
    exact slotsOf_eq_nil_iff entries h

/-- Several nodes are written as nothing exactly if they hold no condition. -/
theorem slotsOf_eq_nil_iff {scope : Scope} : ∀ (ns : List FilterNode),
    (∀ c ∈ leavesOf ns, c.slots scope ≠ []) →
      ((∀ u ∈ slotsOf scope ns, u = []) ↔ leavesOf ns = [])
  | [], _ => by simp [slotsOf, leavesOf]
  | n :: ns, h => by
    have hn := slots_eq_nil_iff n fun c hc => h c (by simp [leavesOf, hc])
    have hns := slotsOf_eq_nil_iff ns fun c hc => h c (by simp [leavesOf, hc])
    rw [slotsOf, leavesOf, List.forall_mem_cons, hn, hns, List.append_eq_nil_iff]

end

end FilterNode

namespace FilterGroup

variable {bounds : FilterBounds} {scope : Scope} {g : FilterGroup} {b : BoundText}

/-- The filter of a query has a predicate if it keeps the bounds and its entries have theirs. -/
theorem predicate_eq_ok_iff :
    g.predicate bounds scope = .ok b ↔
      bounds.check 0 g.entries = .ok () ∧
        ∃ parts, FilterNode.predicates bounds scope 0 g.entries = .ok parts ∧
          b = BoundText.join g.combinator.separator parts := by
  unfold predicate
  simp only [bind_eq_ok_iff, Unique.exists_iff, PUnit.default_eq_unit, pure_eq_ok_iff]

/-- The predicate of a filter shows the filter. -/
theorem shows_predicate (h : g.predicate bounds scope = .ok b) : b.Shows (g.slots scope) := by
  obtain ⟨-, parts, hparts, rfl⟩ := predicate_eq_ok_iff.mp h
  exact BoundText.Shows.join g.combinator.reads_separator g.combinator.keyword_ne_placeholder
    (FilterNode.shows_predicates g.entries hparts)

/-- Every condition of a filter that has a predicate has one itself. -/
theorem leaves_checked (h : g.predicate bounds scope = .ok b) :
    ∀ c ∈ g.leaves, ∃ b, c.predicate scope = .ok b := by
  obtain ⟨-, parts, hparts, -⟩ := predicate_eq_ok_iff.mp h
  exact FilterNode.leavesOf_checked g.entries hparts

/-- The values shown are those of the conditions, left to right. -/
theorem params_slots (g : FilterGroup) (scope : Scope) :
    (g.slots scope).filterMap Slot.param? = g.leaves.flatMap Condition.boundValues := by
  rw [slots, params_joinSlots]
  exact FilterNode.params_slotsOf scope g.entries

/-- A filter that has a predicate shows nothing exactly if it has no condition. -/
theorem slots_eq_nil_iff (h : g.predicate bounds scope = .ok b) :
    g.slots scope = [] ↔ g.leaves = [] := by
  rw [slots, joinSlots_eq_nil_iff]
  refine FilterNode.slotsOf_eq_nil_iff g.entries fun c hc => ?_
  obtain ⟨b, hb⟩ := leaves_checked h c hc
  exact Condition.slots_ne_nil hb

end FilterGroup

namespace Query

/-- The conditions of a query's filters, left to right. -/
def conditions (q : Query) : List Condition :=
  match q.filters with
  | some filters => filters.toGroup.leaves
  | none => []

/-- The filters of a query with their values in place. -/
def filterSlots (scope : Scope) (q : Query) : List Slot :=
  match q.filters with
  | some filters => filters.toGroup.slots scope
  | none => []

variable {bounds : FilterBounds} {scope : Scope} {q : Query} {b : BoundText}

/-- The predicate of a query shows its filters. -/
theorem shows_predicate (h : q.predicate bounds scope = .ok b) : b.Shows (q.filterSlots scope) := by
  unfold Query.predicate at h
  unfold filterSlots
  cases hf : q.filters with
  | none =>
    simp only [hf] at h
    exact Except.ok.inj h ▸ BoundText.Shows.empty
  | some filters =>
    simp only [hf] at h
    exact FilterGroup.shows_predicate h

/-- The filter of a query binds the values of its conditions, in order. -/
theorem params_filterSlots (scope : Scope) (q : Query) :
    (q.filterSlots scope).filterMap Slot.param? = q.conditions.flatMap Condition.boundValues := by
  unfold filterSlots conditions
  cases q.filters with
  | none => rfl
  | some filters => exact filters.toGroup.params_slots scope

/-- Every condition of a query that has a predicate has one itself. -/
theorem conditions_checked (h : q.predicate bounds scope = .ok b) :
    ∀ c ∈ q.conditions, ∃ b, c.predicate scope = .ok b := by
  unfold Query.predicate at h
  unfold conditions
  cases hf : q.filters with
  | none => simp
  | some filters =>
    simp only [hf] at h
    exact FilterGroup.leaves_checked h

/-- A compiled statement binds the values of the conditions, in order. -/
theorem CompilesTo.params_eq {settings : Settings} {catalog : Catalog} {s : SelectStatement}
    (h : q.CompilesTo settings catalog scope s) :
    s.params = q.conditions.flatMap Condition.boundValues := by
  rw [← params_filterSlots scope q]
  exact (shows_predicate h.predicate).params

end Query

end DashQuery
