import DashQuery.Error

/-! # Filter operators

The closed set of operators a filter may use, each known by the text with which
it is also written into the predicate. -/

namespace DashQuery

/-- A filter operator. -/
inductive Operator where
  | eq
  | notEq
  | gt
  | lt
  | gte
  | lte
  | like
  | notLike
  | isIn
  | notIn
  | isNull
  | isNotNull
  | between
deriving DecidableEq

namespace Operator

/-- The operator in statement text. -/
def text : Operator → String
  | eq => "="
  | notEq => "!="
  | gt => ">"
  | lt => "<"
  | gte => ">="
  | lte => "<="
  | like => "LIKE"
  | notLike => "NOT LIKE"
  | isIn => "IN"
  | notIn => "NOT IN"
  | isNull => "IS NULL"
  | isNotNull => "IS NOT NULL"
  | between => "BETWEEN"

/-- All operators. -/
def all : List Operator :=
  [eq, notEq, gt, lt, gte, lte, like, notLike, isIn, notIn, isNull, isNotNull, between]

/-- The operator written as `s`; the comparison is exact. -/
def parse (s : String) : Except QueryError Operator :=
  match all.find? fun op => op.text == s with
  | some op => .ok op
  | none => .error (.invalidOperator s)

/-- The list of operators is complete. -/
theorem mem_all (op : Operator) : op ∈ all := by cases op <;> decide

/-- Each operator is known by its own text. -/
theorem parse_text (op : Operator) : parse op.text = .ok op := by cases op <;> rfl

/-- Only an operator's text is an operator. -/
theorem parse_eq_ok_iff {s : String} {op : Operator} : parse s = .ok op ↔ s = op.text := by
  constructor
  · intro h
    unfold parse at h
    split at h
    · next o ho =>
      have hs := List.find?_some ho
      rw [← Except.ok.inj h]
      simpa using (beq_iff_eq.mp hs).symm
    · simp at h
  · rintro rfl
    exact parse_text op

end Operator

end DashQuery
