import DashQuery.Proofs.Filter.Shown

/-!
# Filters apart from their values

A hollow filter is a filter with its values taken out; a membership test still
says how many values it had.  Two filters that are the same when hollow differ
only in their values.  If both have predicates, these have the same text, and as
many values condition by condition.

## Key results

- `BoundText.text_andThen`, `text_parenthesized`, `text_join`: texts are made of texts alone
- `Condition.predicate_agrees`: conditions that differ in their values have one text, and bind as
  many values
- `FilterGroup.text_predicate_eq`: filters that differ only in their values have one text
- `FilterGroup.leaves_hollow`: the conditions of a hollow filter are the hollow conditions
-/

namespace DashQuery

/-! ## Texts are made of texts -/

namespace BoundText

/-- Whether a piece is empty shows in its text. -/
theorem isEmpty_eq_decide (b : BoundText) : b.isEmpty = decide (b.text = "") := by
  rw [Bool.eq_iff_iff, isEmpty_iff, decide_eq_true_iff]

/-- The text of a piece behind another one is made of their texts. -/
theorem text_andThen (a b : BoundText) : (a.andThen b).text =
    if a.text = "" then b.text else if b.text = "" then a.text else a.text ++ " " ++ b.text := by
  simp only [andThen, isEmpty_eq_decide, decide_eq_true_eq, apply_ite text]

/-- So is the text of a piece in parentheses. -/
theorem text_parenthesized (b : BoundText) : b.parenthesized.text =
    if b.text = "" then b.text else "(" ++ b.text ++ ")" := by
  simp only [parenthesized, isEmpty_eq_decide, decide_eq_true_eq, apply_ite text]

/-- So is the text of pieces with a separator between them. -/
theorem text_join (separator : String) (parts : List BoundText) : (join separator parts).text =
    separator.intercalate ((parts.map text).filter fun t => t ≠ "") := by
  simp only [join, isEmpty_eq_decide, List.filter_map, Function.comp_def, decide_not]

end BoundText

/-! ## Conditions -/

/-- The placeholders depend only on how many values there are. -/
theorem Operator.text_placed_eq (op : Operator) {values others : List Param}
    (h : values.length = others.length) : (op.placed values).text = (op.placed others).text := by
  cases op with
  | isNull | isNotNull => rfl
  | isIn | notIn => simp only [placed, BoundText.text_parenthesized, BoundText.paramList, h]
  | between =>
    -- the lengths agree, so both are a pair or neither is
    rcases values with _ | ⟨_, _ | ⟨_, _ | _⟩⟩ <;> rcases others with _ | ⟨_, _ | ⟨_, _ | _⟩⟩ <;>
      first | rfl | simp at h
  | eq | notEq | gt | lt | gte | lte | like | notLike =>
    rcases values with _ | ⟨_, _ | _⟩ <;> rcases others with _ | ⟨_, _ | _⟩ <;>
      first | rfl | simp at h

/-- As many nulls as there are values in a list; null for anything else. -/
def Json.hollow : Json → Json
  | .arr values => .arr (values.map fun _ => .null)
  | _ => .null

namespace Condition

/-- The condition without its value; a membership test still says how many values it had. -/
def hollow (c : Condition) : Condition :=
  { c with value := if c.operator = "IN" ∨ c.operator = "NOT IN" then c.value.hollow else .null }

variable {scope : Scope} {c d : Condition} {op : Operator} {a b : BoundText}

/-- Conditions differ only in their values if column and operator agree and lists have one length.
-/
theorem hollow_eq_iff : c.hollow = d.hollow ↔ c.column = d.column ∧ c.operator = d.operator ∧
    (c.operator = "IN" ∨ c.operator = "NOT IN" → c.value.hollow = d.value.hollow) := by
  simp only [hollow, Condition.mk.injEq]
  constructor
  · -- only a membership test keeps a trace of its value
    rintro ⟨hcolumn, hoperator, hvalue⟩
    refine ⟨hcolumn, hoperator, fun hmember => ?_⟩
    rwa [if_pos hmember, if_pos (hoperator ▸ hmember)] at hvalue
  · rintro ⟨hcolumn, hoperator, hvalue⟩
    refine ⟨hcolumn, hoperator, ?_⟩
    rw [← hoperator]
    split
    · next hmember => exact hvalue hmember
    · rfl

/-- Conditions that differ only in their values and have one value are the same. -/
theorem eq_of_hollow_eq (h : c.hollow = d.hollow) (hvalue : c.value = d.value) : c = d := by
  obtain ⟨hcolumn, hoperator, -⟩ := hollow_eq_iff.mp h
  cases c
  cases d
  simp only [Condition.mk.injEq]
  exact ⟨hcolumn, hoperator, hvalue⟩

/-- Conditions that differ only in their values bind as many of them. -/
theorem length_boundValues_eq (h : c.hollow = d.hollow) (hop : c.operator = op.text)
    (hc : c.tail op = .ok a) (hd : d.tail op = .ok b) :
    (op.boundValues c.value).length = (op.boundValues d.value).length := by
  obtain ⟨hfits, -⟩ := tail_eq hc
  obtain ⟨hfits', -⟩ := tail_eq hd
  -- a membership test binds as many values as its list has
  have hmember : op = .isIn ∨ op = .notIn →
      (op.boundValues c.value).length = (op.boundValues d.value).length := by
    intro hmember
    obtain ⟨values, hv, -, hlength, -⟩ := tail_membership hmember hc
    obtain ⟨others, hv', -, hlength', -⟩ := tail_membership hmember hd
    have hoperator : c.operator = "IN" ∨ c.operator = "NOT IN" := by
      rcases hmember with rfl | rfl
      · exact .inl hop
      · exact .inr hop
    -- and the lengths of the lists are all that the hollow conditions keep of them
    have hhollow := (hollow_eq_iff.mp h).2.2 hoperator
    rw [hv, hv'] at hhollow
    have hsame := congrArg List.length (Json.arr.inj hhollow)
    rw [List.length_map, List.length_map] at hsame
    rw [hlength, hlength', hsame]
  cases op with
  -- every other operator takes a fixed number of values
  | isIn => exact hmember (.inl rfl)
  | notIn => exact hmember (.inr rfl)
  | isNull | isNotNull =>
    exact (congrArg List.length hfits).trans (congrArg List.length hfits').symm
  | between | eq | notEq | gt | lt | gte | lte | like | notLike => exact hfits.trans hfits'.symm

/-- Conditions that differ only in their values have one text and bind as many values. -/
theorem predicate_agrees (h : c.hollow = d.hollow) (hc : c.predicate scope = .ok a)
    (hd : d.predicate scope = .ok b) :
    a.text = b.text ∧ c.boundValues.length = d.boundValues.length := by
  obtain ⟨hcolumn, hoperator, -⟩ := hollow_eq_iff.mp h
  obtain ⟨-, -, -, op, tail, hop, htail, rfl⟩ := predicate_eq_ok_iff.mp hc
  obtain ⟨-, -, -, op', tail', hop', htail', rfl⟩ := predicate_eq_ok_iff.mp hd
  -- the operators are spelled alike, so they are the same
  obtain rfl : op = op' := Except.ok.inj (hop.symm.trans (hoperator ▸ hop'))
  have hlength := length_boundValues_eq h (Operator.parse_eq_ok_iff.mp hop) htail htail'
  constructor
  · rw [BoundText.text_andThen, BoundText.text_andThen, (tail_eq htail).2, (tail_eq htail').2,
      op.text_placed_eq hlength, hcolumn]
  · simp only [boundValues, hop, hop']
    exact hlength

end Condition

/-! ## Nodes -/

namespace FilterNode

mutual

/-- The node with hollow conditions. -/
def hollow : FilterNode → FilterNode
  | .condition c => .condition c.hollow
  | .group combinator entries => .group combinator (hollowAll entries)

/-- The nodes with hollow conditions. -/
def hollowAll : List FilterNode → List FilterNode
  | [] => []
  | n :: ns => hollow n :: hollowAll ns

end

mutual

/-- Taking the values out of a node takes them out of its conditions. -/
theorem leaves_hollow : ∀ n : FilterNode, leaves (hollow n) = (leaves n).map Condition.hollow
  | .condition c => by simp [hollow, leaves]
  | .group combinator entries => by rw [hollow, leaves, leaves, leavesOf_hollowAll entries]

/-- The same for several nodes. -/
theorem leavesOf_hollowAll : ∀ ns : List FilterNode,
    leavesOf (hollowAll ns) = (leavesOf ns).map Condition.hollow
  | [] => rfl
  | n :: ns => by
    rw [hollowAll, leavesOf, leavesOf, leaves_hollow n, leavesOf_hollowAll ns, List.map_append]

end

variable {bounds : FilterBounds} {scope : Scope}

mutual

/-- Nodes that differ only in their values have one text. -/
theorem text_predicate_eq {depth : Nat} : ∀ (n m : FilterNode) {a b : BoundText},
    hollow n = hollow m → predicate bounds scope depth n = .ok a →
      predicate bounds scope depth m = .ok b → a.text = b.text
  | .condition c, .condition d, a, b, h, hn, hm => by
    rw [hollow, hollow, FilterNode.condition.injEq] at h
    rw [predicate] at hn hm
    exact (Condition.predicate_agrees h hn hm).1
  -- a condition and a group differ in more than their values
  | .condition c, .group combinator entries, _, _, h, _, _ => by
    rw [hollow, hollow] at h
    cases h
  | .group combinator entries, .condition d, _, _, h, _, _ => by
    rw [hollow, hollow] at h
    cases h
  | .group combinator entries, .group combinator' entries', a, b, h, hn, hm => by
    rw [hollow, hollow, FilterNode.group.injEq] at h
    obtain ⟨-, parts, hparts, rfl⟩ := predicate_group_eq_ok_iff.mp hn
    obtain ⟨-, parts', hparts', rfl⟩ := predicate_group_eq_ok_iff.mp hm
    rw [BoundText.text_parenthesized, BoundText.text_parenthesized, BoundText.text_join,
      BoundText.text_join, texts_predicates_eq entries entries' h.2 hparts hparts', h.1]

/-- Several nodes that differ only in their values have the same texts. -/
theorem texts_predicates_eq {depth : Nat} : ∀ (ns ms : List FilterNode) {as bs : List BoundText},
    hollowAll ns = hollowAll ms → predicates bounds scope depth ns = .ok as →
      predicates bounds scope depth ms = .ok bs → as.map BoundText.text = bs.map BoundText.text
  | [], [], as, bs, _, hn, hm => by
    rw [← Except.ok.inj hn, ← Except.ok.inj hm]
  | [], m :: ms, _, _, h, _, _ => by
    rw [hollowAll, hollowAll] at h
    cases h
  | n :: ns, [], _, _, h, _, _ => by
    rw [hollowAll, hollowAll] at h
    cases h
  | n :: ns, m :: ms, as, bs, h, hn, hm => by
    rw [hollowAll, hollowAll, List.cons.injEq] at h
    -- the first two nodes agree, and so do the others
    obtain ⟨a, as, ha, has, rfl⟩ := predicates_cons_eq_ok_iff.mp hn
    obtain ⟨b, bs, hb, hbs, rfl⟩ := predicates_cons_eq_ok_iff.mp hm
    rw [List.map_cons, List.map_cons, text_predicate_eq n m h.1 ha hb,
      texts_predicates_eq ns ms h.2 has hbs]

end

end FilterNode

/-! ## Filters -/

namespace FilterGroup

variable {bounds : FilterBounds} {scope : Scope} {g g' : FilterGroup} {a b : BoundText}

/-- The filter with hollow conditions. -/
def hollow (g : FilterGroup) : FilterGroup := ⟨g.combinator, FilterNode.hollowAll g.entries⟩

/-- Taking the values out of a filter takes them out of its conditions. -/
theorem leaves_hollow (g : FilterGroup) : g.hollow.leaves = g.leaves.map Condition.hollow :=
  FilterNode.leavesOf_hollowAll g.entries

/-- Filters that differ only in their values have one text. -/
theorem text_predicate_eq (h : g.hollow = g'.hollow) (hg : g.predicate bounds scope = .ok a)
    (hg' : g'.predicate bounds scope = .ok b) : a.text = b.text := by
  obtain ⟨-, parts, hparts, rfl⟩ := predicate_eq_ok_iff.mp hg
  obtain ⟨-, parts', hparts', rfl⟩ := predicate_eq_ok_iff.mp hg'
  rw [hollow, hollow, FilterGroup.mk.injEq] at h
  rw [BoundText.text_join, BoundText.text_join,
    FilterNode.texts_predicates_eq g.entries g'.entries h.2 hparts hparts', h.1]

end FilterGroup

/-- The filters with hollow conditions. -/
def Filters.hollow : Filters → Filters
  | .group g => .group g.hollow
  | .list entries => .list (FilterNode.hollowAll entries)

/-- It makes no difference whether values are taken out of filters before they are made a group. -/
theorem Filters.toGroup_hollow (filters : Filters) :
    filters.hollow.toGroup = filters.toGroup.hollow := by
  cases filters <;> rfl

end DashQuery
