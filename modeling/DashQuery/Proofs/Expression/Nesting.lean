import DashQuery.Expression.Token
import Mathlib.Data.List.Infix

/-!
# Nested parentheses

Whether parentheses match depends on the kinds of tokens only.  A list of kinds is
`Balanced` if no prefix closes more parentheses than it opens and the whole closes
as many.  A reader that counts the open ones takes the kinds off one by one;
`Closes` lists its steps, and `balanced_iff_closes` says that it comes to its end
with none left open exactly on balanced lists.
-/

namespace DashQuery

/-- Every prefix opens at least as many parentheses as it closes, and the whole opens as many. -/
structure Balanced (ks : List TokenKind) : Prop where
  nested : ∀ p, p <+: ks → p.count .rightParen ≤ p.count .leftParen
  closed : ks.count .rightParen = ks.count .leftParen

/-- The kinds can be read inside `depth` open parentheses up to the end of the last one. -/
inductive Closes : Nat → List TokenKind → Prop
  | done : Closes 0 []
  | leftParen {depth : Nat} {ks : List TokenKind} (rest : Closes (depth + 1) ks) :
      Closes depth (.leftParen :: ks)
  | rightParen {depth : Nat} {ks : List TokenKind} (rest : Closes depth ks) :
      Closes (depth + 1) (.rightParen :: ks)
  | other {depth : Nat} {k : TokenKind} {ks : List TokenKind} (hl : k ≠ .leftParen)
      (hr : k ≠ .rightParen) (rest : Closes depth ks) : Closes depth (k :: ks)

/-- The prefixes of a list with a first member are the empty one and those of the rest behind it. -/
private theorem forall_prefix_cons_iff {α : Type} {P : List α → Prop} {x : α} {xs : List α} :
    (∀ p, p <+: x :: xs → P p) ↔ P [] ∧ ∀ p, p <+: xs → P (x :: p) := by
  simp only [List.prefix_cons_iff]
  constructor
  · intro h
    exact ⟨h [] (.inl rfl), fun p hp => h (x :: p) (.inr ⟨p, rfl, hp⟩)⟩
  · rintro ⟨hnil, hcons⟩ p (rfl | ⟨q, rfl, hq⟩)
    · exact hnil
    · exact hcons q hq

/-- The condition of balance, for what is read inside `depth` open parentheses. -/
structure BalancedWithin (depth : Nat) (ks : List TokenKind) : Prop where
  nested : ∀ p, p <+: ks → p.count .rightParen ≤ depth + p.count .leftParen
  closed : ks.count .rightParen = depth + ks.count .leftParen

/-- A first member that adds `l` to the count of openings and `r` to that of closings is taken off:
the rest is read inside the parentheses that are open behind it. -/
private theorem balancedWithin_cons_iff {depth rest l r : Nat} {k : TokenKind}
    {ks : List TokenKind}
    (hl : ∀ p : List TokenKind, (k :: p).count .leftParen = p.count .leftParen + l)
    (hr : ∀ p : List TokenKind, (k :: p).count .rightParen = p.count .rightParen + r)
    (hrest : depth + l = rest + r) :
    BalancedWithin depth (k :: ks) ↔ BalancedWithin rest ks := by
  constructor
  · intro h
    -- the prefixes of the rest are those of the whole without the first member
    have hnested := (forall_prefix_cons_iff.mp h.nested).2
    have hclosed := h.closed
    simp only [hl, hr] at hnested hclosed
    refine ⟨fun p hp => ?_, by omega⟩
    have := hnested p hp
    omega
  · intro h
    -- the empty prefix closes nothing, the others have the first member in front
    refine ⟨forall_prefix_cons_iff.mpr ⟨by simp, fun p hp => ?_⟩, ?_⟩
    · have := h.nested p hp
      rw [hl, hr]
      omega
    · rw [hl, hr, h.closed]
      omega

namespace BalancedWithin

variable {depth : Nat} {k : TokenKind} {ks : List TokenKind}

/-- Nothing closes no parentheses. -/
theorem nil_iff : BalancedWithin depth [] ↔ depth = 0 := by
  constructor
  · intro h
    simpa using h.closed.symm
  · rintro rfl
    exact ⟨fun p hp => by simp [List.prefix_nil.mp hp], rfl⟩

/-- An opening parenthesis is read inside of one more. -/
theorem leftParen_iff : BalancedWithin depth (.leftParen :: ks) ↔ BalancedWithin (depth + 1) ks :=
  balancedWithin_cons_iff (l := 1) (r := 0) (fun _ => List.count_cons_self)
    (fun _ => List.count_cons_of_ne (by decide)) rfl

/-- A closing parenthesis leaves one less. -/
theorem rightParen_iff :
    BalancedWithin (depth + 1) (.rightParen :: ks) ↔ BalancedWithin depth ks :=
  balancedWithin_cons_iff (l := 0) (r := 1) (fun _ => List.count_cons_of_ne (by decide))
    (fun _ => List.count_cons_self) rfl

/-- Any other token changes nothing. -/
theorem other_iff (hl : k ≠ .leftParen) (hr : k ≠ .rightParen) :
    BalancedWithin depth (k :: ks) ↔ BalancedWithin depth ks :=
  balancedWithin_cons_iff (l := 0) (r := 0) (fun _ => List.count_cons_of_ne hl)
    (fun _ => List.count_cons_of_ne hr) rfl

/-- A parenthesis that is not open cannot be closed. -/
theorem not_rightParen : ¬BalancedWithin 0 (.rightParen :: ks) := by
  intro h
  have hfirst := h.nested [.rightParen] (List.prefix_append _ ks)
  simp at hfirst

end BalancedWithin

/-- A reader that counts comes to its end exactly if the condition of balance holds. -/
theorem closes_iff {depth : Nat} {ks : List TokenKind} :
    Closes depth ks ↔ BalancedWithin depth ks := by
  constructor
  · -- on the way down every step keeps the depth within bounds
    intro h
    induction h with
    | done => exact BalancedWithin.nil_iff.mpr rfl
    | leftParen _ ih => exact BalancedWithin.leftParen_iff.mpr ih
    | rightParen _ ih => exact BalancedWithin.rightParen_iff.mpr ih
    | other hl hr _ ih => exact (BalancedWithin.other_iff hl hr).mpr ih
  · -- on the way back the first token tells the step
    intro h
    induction ks generalizing depth with
    | nil =>
      rw [BalancedWithin.nil_iff.mp h]
      exact .done
    | cons k ks ih =>
      by_cases hl : k = .leftParen
      · subst hl
        exact .leftParen (ih (BalancedWithin.leftParen_iff.mp h))
      · by_cases hr : k = .rightParen
        · subst hr
          -- there must be a parenthesis to close
          cases depth with
          | zero => exact absurd h BalancedWithin.not_rightParen
          | succ n => exact .rightParen (ih (BalancedWithin.rightParen_iff.mp h))
        · exact .other hl hr (ih ((BalancedWithin.other_iff hl hr).mp h))

/-- Balanced lists are those that are read to the end from outside of all parentheses. -/
theorem balanced_iff_closes {ks : List TokenKind} : Balanced ks ↔ Closes 0 ks := by
  rw [closes_iff]
  constructor
  · intro h
    exact ⟨by simpa using h.nested, by simpa using h.closed⟩
  · intro h
    exact ⟨by simpa using h.nested, by simpa using h.closed⟩

namespace Closes

variable {depth : Nat} {k : TokenKind} {ks ls : List TokenKind}

/-- Behind an opening parenthesis one more is open. -/
theorem of_leftParen (h : Closes depth (.leftParen :: ks)) : Closes (depth + 1) ks := by
  cases h with
  | leftParen rest => exact rest
  | other hl _ _ => exact absurd rfl hl

/-- A closing parenthesis had one to close. -/
theorem of_rightParen (h : Closes depth (.rightParen :: ks)) :
    ∃ n, depth = n + 1 ∧ Closes n ks := by
  cases h with
  | rightParen rest => exact ⟨_, rfl, rest⟩
  | other _ hr _ => exact absurd rfl hr

/-- Behind any other token as many are open. -/
theorem of_other (h : Closes depth (k :: ks)) (hl : k ≠ .leftParen) (hr : k ≠ .rightParen) :
    Closes depth ks := by
  cases h with
  | leftParen _ => exact absurd rfl hl
  | rightParen _ => exact absurd rfl hr
  | other _ _ rest => exact rest

/-- What closes its own parentheses may stand behind what closes those that are open. -/
theorem append (hk : Closes depth ks) (hl : Closes 0 ls) : Closes depth (ks ++ ls) := by
  induction hk with
  | done => exact hl
  | leftParen _ ih => exact .leftParen ih
  | rightParen _ ih => exact .rightParen ih
  | other hleft hright _ ih => exact .other hleft hright ih

/-- Kinds that are no parentheses may stand in front of any others. -/
theorem prepend (hl : Closes depth ls) (hk : ∀ k ∈ ks, k ≠ .leftParen ∧ k ≠ .rightParen) :
    Closes depth (ks ++ ls) := by
  induction ks with
  | nil => exact hl
  | cons k ks ih =>
    obtain ⟨hfirst, hrest⟩ := List.forall_mem_cons.mp hk
    exact .other hfirst.1 hfirst.2 (ih hrest)

/-- Without parentheses there is nothing to close. -/
theorem of_forall (h : ∀ k ∈ ks, k ≠ .leftParen ∧ k ≠ .rightParen) : Closes 0 ks := by
  rw [← List.append_nil ks]
  exact done.prepend h

end Closes

end DashQuery
