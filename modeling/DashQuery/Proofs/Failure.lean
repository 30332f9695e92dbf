import DashQuery.Error
import Mathlib.Data.List.Basic

/-!
# The first failure

A sequence of steps in `Except` fails as its first failing step does.  `failure?`
is the error of a step; it goes through sequences, so a step that is made of checks
can be compared with the list of these checks.

## Key results

- `failure?_bind`, `failure?_mapM`: the error of a sequence and of a list of steps
- `mapM_eq_error_iff`: a list of steps fails as its first failing member
- `firstViolation_eq_some_iff`: the first violation stands behind checks that pass
- `firstViolation_flatMap_eq_some_iff`: the same for members that have several checks each
-/

namespace DashQuery

section Except

variable {ε α β : Type}

/-- The error of a step that fails. -/
def failure? : Except ε α → Option ε
  | .ok _ => none
  | .error e => some e

/-- A step that succeeds has no error. -/
@[simp] theorem failure?_ok (a : α) : failure? (.ok a : Except ε α) = none := rfl

/-- A step that fails has its error. -/
@[simp] theorem failure?_error (e : ε) : failure? (.error e : Except ε α) = some e := rfl

/-- To give a value back is no failure. -/
@[simp] theorem failure?_pure (a : α) : failure? (pure a : Except ε α) = none := rfl

/-- Without an error there is a value. -/
theorem failure?_eq_none_iff {x : Except ε α} : failure? x = none ↔ ∃ a, x = .ok a := by
  cases x <;> simp

/-- The error of a step is the one it fails with. -/
theorem failure?_eq_some_iff {x : Except ε α} {e : ε} : failure? x = some e ↔ x = .error e := by
  cases x <;> simp

/-- A sequence fails as its first part does, or as its second one on the value of the first. -/
theorem failure?_bind {x : Except ε α} {f : α → Except ε β} {first later : Option ε}
    (hx : failure? x = first) (hf : ∀ a, x = .ok a → failure? (f a) = later) :
    failure? (x >>= f) = first.or later := by
  subst hx
  cases x with
  | error e => rfl
  | ok a => exact hf a rfl

/-- A step whose value is only put to use fails as it does by itself. -/
@[simp] theorem failure?_map (f : α → β) (x : Except ε α) : failure? (f <$> x) = failure? x := by
  cases x <;> rfl

/-- A sequence that starts with a check fails as the check does, or else as its rest. -/
theorem failure?_check_bind (check : Except ε Unit) (f : Unit → Except ε β) :
    failure? (check >>= f) = (failure? check).or (failure? (f ())) := by
  cases check <;> rfl

/-- A list of steps fails as the first of them that fails. -/
theorem failure?_mapM (f : α → Except ε β) (xs : List α) :
    failure? (xs.mapM f) = xs.findSome? fun x => failure? (f x) := by
  induction xs with
  | nil => rfl
  | cons x xs ih =>
    have hcons : failure? ((x :: xs).mapM f) =
        (failure? (f x)).or (xs.findSome? fun x => failure? (f x)) := by
      -- the value of the first step is only put in front of the others
      rw [List.mapM_cons]
      refine failure?_bind rfl fun b _ => ?_
      rw [bind_pure_comp, failure?_map, ih]
    rw [hcons, List.findSome?_cons]
    cases failure? (f x) <;> rfl

/-- A list of steps succeeds exactly if each of them does. -/
theorem exists_mapM_eq_ok_iff {f : α → Except ε β} {xs : List α} :
    (∃ ys, xs.mapM f = .ok ys) ↔ ∀ x ∈ xs, ∃ y, f x = .ok y := by
  rw [← failure?_eq_none_iff, failure?_mapM, List.findSome?_eq_none_iff]
  simp only [failure?_eq_none_iff]

/-- A list of steps fails as the first of them that fails, behind steps that succeed. -/
theorem mapM_eq_error_iff {f : α → Except ε β} {xs : List α} {e : ε} :
    xs.mapM f = .error e ↔ ∃ before x after, xs = before ++ x :: after ∧
      (∀ y ∈ before, ∃ b, f y = .ok b) ∧ f x = .error e := by
  rw [← failure?_eq_some_iff, failure?_mapM, List.findSome?_eq_some_iff]
  simp only [failure?_eq_some_iff, failure?_eq_none_iff, and_comm]

end Except

/-! ## Checks -/

/-- A check passes, or it says what is wrong. -/
abbrev Check : Type := Except QueryError Unit

/-- Something has to hold; `e` says what is wrong where it does not. -/
def Check.require (holds : Prop) [Decidable holds] (e : QueryError) : Check :=
  if holds then .ok () else .error e

/-- What the first check that fails says, if one of them does. -/
def firstViolation (checks : List Check) : Option QueryError := checks.findSome? failure?

/-- Without checks nothing is wrong. -/
@[simp] theorem firstViolation_nil : firstViolation [] = none := rfl

/-- A check says what is wrong, or else those behind it do. -/
@[simp] theorem firstViolation_cons (check : Check) (checks : List Check) :
    firstViolation (check :: checks) = (failure? check).or (firstViolation checks) := by
  unfold firstViolation
  rw [List.findSome?_cons]
  cases failure? check <;> rfl

/-- Some checks say what is wrong, or else those behind them do. -/
@[simp] theorem firstViolation_append (checks more : List Check) :
    firstViolation (checks ++ more) = (firstViolation checks).or (firstViolation more) :=
  List.findSome?_append

/-- The first violation of all members is that of the first member that has one. -/
theorem firstViolation_flatMap {α : Type} (checks : α → List Check) (xs : List α) :
    firstViolation (xs.flatMap checks) = xs.findSome? fun x => firstViolation (checks x) := by
  induction xs with
  | nil => rfl
  | cons x xs ih =>
    rw [List.flatMap_cons, firstViolation_append, ih, List.findSome?_cons]
    cases firstViolation (checks x) <;> rfl

/-- Nothing is wrong if every check passes. -/
theorem firstViolation_eq_none_iff {checks : List Check} :
    firstViolation checks = none ↔ ∀ check ∈ checks, check = .ok () := by
  rw [firstViolation, List.findSome?_eq_none_iff]
  simp only [failure?_eq_none_iff, Unique.exists_iff, PUnit.default_eq_unit]

/-- The first violation is that of a check behind checks that pass. -/
theorem firstViolation_eq_some_iff {checks : List Check} {e : QueryError} :
    firstViolation checks = some e ↔ ∃ before after, checks = before ++ .error e :: after ∧
      ∀ check ∈ before, check = .ok () := by
  rw [firstViolation, List.findSome?_eq_some_iff]
  simp only [failure?_eq_none_iff, failure?_eq_some_iff, Unique.exists_iff,
    PUnit.default_eq_unit]
  -- a check that fails is its error, so it need not be named
  constructor
  · rintro ⟨before, check, after, rfl, rfl, hbefore⟩
    exact ⟨before, after, rfl, hbefore⟩
  · rintro ⟨before, after, rfl, hbefore⟩
    exact ⟨before, _, after, rfl, rfl, hbefore⟩

/-- The first violation of members' checks is that of one member, behind members that pass. -/
theorem firstViolation_flatMap_eq_some_iff {α : Type} {checks : α → List Check} {xs : List α}
    {e : QueryError} :
    firstViolation (xs.flatMap checks) = some e ↔ ∃ before x after, xs = before ++ x :: after ∧
      (∀ y ∈ before, ∀ check ∈ checks y, check = .ok ()) ∧ firstViolation (checks x) = some e := by
  rw [firstViolation_flatMap, List.findSome?_eq_some_iff]
  simp only [firstViolation_eq_none_iff, and_comm]

/-- What is required is missing, or there is no error. -/
@[simp] theorem failure?_require (holds : Prop) [Decidable holds] (e : QueryError) :
    failure? (Check.require holds e) = if holds then none else some e := by
  unfold Check.require
  split <;> rfl

/-- What is required holds if the check passes. -/
@[simp] theorem Check.require_eq_ok_iff {holds : Prop} [Decidable holds] {e : QueryError} :
    Check.require holds e = .ok () ↔ holds := by
  unfold Check.require
  split <;> simp_all

/-! ## What a check may say -/

/-- Whatever the check finds wrong has the property. -/
def Check.Says (property : QueryError → Prop) (check : Check) : Prop :=
  ∀ e, check = .error e → property e

section Says

variable {property : QueryError → Prop}

/-- A check that passes says nothing. -/
theorem Check.says_ok : Check.Says property (.ok ()) := fun _ h => by cases h

/-- A check that fails says its error. -/
theorem Check.says_error_iff {e : QueryError} : Check.Says property (.error e) ↔ property e :=
  ⟨fun h => h e rfl, fun h _ he => Except.error.inj he ▸ h⟩

/-- A requirement says at most its own error. -/
theorem Check.says_require {holds : Prop} [Decidable holds] {e : QueryError} (h : property e) :
    (Check.require holds e).Says property := by
  unfold Check.require
  split
  · exact Check.says_ok
  · exact Check.says_error_iff.mpr h

end Says

/-- The check refuses a query at most for what the caller did; it never says that a run failed. -/
def Check.Refuses (check : Check) : Prop := ∀ e, check = .error e → e.isValidation = true

/-- A check that passes refuses nothing. -/
@[simp] theorem Check.refuses_ok : Check.Refuses (.ok ()) := Check.says_ok

/-- A check that fails refuses a query if its error is the caller's. -/
@[simp] theorem Check.refuses_error_iff {e : QueryError} :
    Check.Refuses (.error e) ↔ e.isValidation = true := Check.says_error_iff

/-- A requirement refuses a query if its error is the caller's. -/
theorem Check.refuses_require {holds : Prop} [Decidable holds] {e : QueryError}
    (h : e.isValidation = true) : (Check.require holds e).Refuses := Check.says_require h

/-- The checks of all members refuse queries if those of each member do. -/
theorem Check.refuse_flatMap {α : Type} {checks : α → List Check}
    (h : ∀ x, ∀ check ∈ checks x, check.Refuses) (xs : List α) :
    ∀ check ∈ xs.flatMap checks, check.Refuses := by
  intro check hmem
  obtain ⟨x, -, hx⟩ := List.mem_flatMap.mp hmem
  exact h x check hx

end DashQuery
