import Mathlib.Data.List.Forall2

/-!
# List lemmas

What core and Mathlib do not say about lists with a separator between their parts,
about runs at the front of a list, about two lists that agree member by member, and
about lists made of blocks.
-/

namespace DashQuery

variable {α β γ : Type}

/-! ## Parts with a separator between them -/

/-- A map goes through separators. -/
theorem map_intercalate (f : α → β) (sep : List α) (xss : List (List α)) :
    (sep.intercalate xss).map f = (sep.map f).intercalate (xss.map (List.map f)) := by
  induction xss with
  | nil => rfl
  | cons xs xss ih =>
    cases xss with
    | nil => simp only [List.intercalate_singleton, List.map_cons, List.map_nil]
    | cons ys yss =>
      rw [List.intercalate_cons_cons, List.map_append, List.map_append, ih]
      simp only [List.map_cons, List.intercalate_cons_cons]

/-- Parts with nothing between them are put one behind the other. -/
theorem nil_intercalate (xss : List (List α)) : ([] : List α).intercalate xss = xss.flatten := by
  induction xss with
  | nil => rfl
  | cons xs xss ih =>
    cases xss with
    | nil => simp only [List.intercalate_singleton, List.flatten_cons, List.flatten_nil,
        List.append_nil]
    | cons ys yss =>
      rw [List.intercalate_cons_cons, List.append_nil, ih]
      rfl

/-- A separator of which nothing is kept goes away. -/
theorem filterMap_intercalate {f : α → Option β} {sep : List α}
    (hsep : sep.filterMap f = []) (xss : List (List α)) :
    (sep.intercalate xss).filterMap f = xss.flatMap (List.filterMap f) := by
  induction xss with
  | nil => rfl
  | cons xs xss ih =>
    cases xss with
    -- the last part has no separator behind it
    | nil => simp only [List.intercalate_singleton, List.flatMap_cons, List.flatMap_nil,
        List.append_nil]
    | cons ys yss =>
      rw [List.intercalate_cons_cons, List.filterMap_append, List.filterMap_append, hsep,
        List.append_nil, ih]
      rfl

/-- What is in the whole is in the separator or in one of the parts. -/
theorem mem_intercalate {sep : List α} {xss : List (List α)} {x : α}
    (h : x ∈ sep.intercalate xss) : x ∈ sep ∨ ∃ xs ∈ xss, x ∈ xs := by
  induction xss with
  | nil => cases h
  | cons xs xss ih =>
    cases xss with
    | nil =>
      rw [List.intercalate_singleton] at h
      exact .inr ⟨xs, List.mem_cons_self, h⟩
    | cons ys yss =>
      rw [List.intercalate_cons_cons, List.mem_append, List.mem_append] at h
      rcases h with (h | h) | h
      · exact .inr ⟨xs, List.mem_cons_self, h⟩
      · exact .inl h
      · rcases ih h with hsep | ⟨zs, hz, hx⟩
        · exact .inl hsep
        · exact .inr ⟨zs, List.mem_cons_of_mem _ hz, hx⟩

/-- What is in one of the parts is in the whole. -/
theorem mem_intercalate_of_mem {sep xs : List α} {xss : List (List α)} {x : α} (hxs : xs ∈ xss)
    (hx : x ∈ xs) : x ∈ sep.intercalate xss := by
  induction xss with
  | nil => cases hxs
  | cons ys yss ih =>
    cases yss with
    | nil =>
      rw [List.intercalate_singleton]
      rwa [List.mem_singleton.mp hxs] at hx
    | cons zs zss =>
      rw [List.intercalate_cons_cons]
      -- in the first part, or in one behind the separator
      rcases List.mem_cons.mp hxs with rfl | hxs
      · exact List.mem_append_left _ (List.mem_append_left _ hx)
      · exact List.mem_append_right _ (ih hxs)

/-- Nothing comes only of parts whose first one is nothing. -/
theorem eq_nil_of_intercalate_eq_nil {sep xs : List α} {xss : List (List α)}
    (h : sep.intercalate (xs :: xss) = []) : xs = [] := by
  cases xss with
  | nil => rwa [List.intercalate_singleton] at h
  | cons ys yss =>
    rw [List.intercalate_cons_cons, List.append_assoc] at h
    exact (List.append_eq_nil_iff.mp h).1

/-- Two lists that are cut at their first `x` are cut at one place. -/
theorem append_cons_inj_of_not_mem {x : α} {a b u v : List α} (ha : x ∉ a) (hb : x ∉ b)
    (h : a ++ x :: u = b ++ x :: v) : a = b ∧ u = v := by
  rcases List.append_eq_append_iff.mp h with ⟨between, hab, hrest⟩ | ⟨between, hab, hrest⟩
  -- whatever stood between the two cuts would begin with `x`
  all_goals
    cases between with
    | nil => simp_all
    | cons y ys =>
      rw [List.cons_append, List.cons.injEq] at hrest
      simp [hab, ← hrest.1] at ha hb

/-- Two lists that are cut at their last `x` are cut at one place. -/
theorem append_cons_inj_of_not_mem_right {x : α} {a b u v : List α} (hu : x ∉ u) (hv : x ∉ v)
    (h : a ++ x :: u = b ++ x :: v) : a = b ∧ u = v := by
  have hreverse := congrArg List.reverse h
  simp only [List.reverse_append, List.reverse_cons, List.append_assoc,
    List.singleton_append] at hreverse
  rw [← List.mem_reverse] at hu hv
  obtain ⟨huv, hab⟩ := append_cons_inj_of_not_mem hu hv hreverse
  exact ⟨List.reverse_injective hab, List.reverse_injective huv⟩

/-! ## Runs at the front -/

/-- A run that does not go on in the second list ends in the first. -/
theorem takeWhile_append_of_head {p : α → Bool} {xs ys : List α}
    (h : ∀ y ∈ ys.head?, p y = false) : (xs ++ ys).takeWhile p = xs.takeWhile p := by
  induction xs with
  | nil =>
    cases ys with
    | nil => rfl
    | cons y ys => simp [h y (by simp)]
  | cons x xs ih => simp only [List.cons_append, List.takeWhile_cons, ih]

/-- A run at the front does not reach into a list that does not begin with a member of it. -/
theorem dropWhile_append_of_head {p : α → Bool} {xs ys : List α}
    (h : ∀ y ∈ ys.head?, p y = false) : (xs ++ ys).dropWhile p = xs.dropWhile p ++ ys := by
  induction xs with
  | nil =>
    cases ys with
    | nil => rfl
    | cons y ys => simp [h y (by simp)]
  | cons x xs ih =>
    simp only [List.cons_append, List.dropWhile_cons, ih]
    split <;> rfl

/-- A front of a list that holds nothing of what its last part is made of stands before that
part. -/
theorem append_eq_append_of_disjoint {xs ys front back : List α} (h : xs ++ ys = front ++ back)
    (hdisjoint : ∀ x ∈ front, x ∉ ys) : ∃ rest, xs = front ++ rest ∧ back = rest ++ ys := by
  rcases List.append_eq_append_iff.mp h with ⟨between, hfront, hys⟩ | ⟨between, hxs, hback⟩
  · -- what the front has beyond the first part would be of the last one
    cases between with
    | nil => exact ⟨[], by simpa using hfront.symm, by simpa using hys.symm⟩
    | cons y between => exact absurd (by simp [hys]) (hdisjoint y (by simp [hfront]))
  · exact ⟨between, hxs, hback⟩

/-! ## Lists that agree member by member -/

/-- A member of the second list has a partner in the first. -/
theorem exists_of_mem_right {r : α → β → Prop} {xs : List α} {ys : List β}
    (h : List.Forall₂ r xs ys) {y : β} (hy : y ∈ ys) : ∃ x ∈ xs, r x y := by
  induction h with
  | nil => cases hy
  | cons hxy _ ih =>
    rcases List.mem_cons.mp hy with rfl | hy
    · exact ⟨_, List.mem_cons_self, hxy⟩
    · obtain ⟨x, hx, hr⟩ := ih hy
      exact ⟨x, List.mem_cons_of_mem _ hx, hr⟩

/-- A function that may fail, applied to each member of a list without failing. -/
theorem forall₂_of_mapM_eq_some {f : α → Option β} {xs : List α} {ys : List β}
    (h : xs.mapM f = some ys) : List.Forall₂ (fun x y => f x = some y) xs ys := by
  induction xs generalizing ys with
  | nil =>
    rw [List.mapM_nil] at h
    rw [← Option.some.inj h]
    exact .nil
  | cons x xs ih =>
    rw [List.mapM_cons] at h
    -- neither the first step nor the others fail
    obtain ⟨y, hy, hrest⟩ := Option.bind_eq_some_iff.mp h
    obtain ⟨ys', hys, hcons⟩ := Option.bind_eq_some_iff.mp hrest
    rw [← Option.some.inj hcons]
    exact .cons hy (ih hys)

/-- Lists that agree under two functions have the same image. -/
theorem map_eq_of_forall₂ {f : α → γ} {g : β → γ} {xs : List α} {ys : List β}
    (h : List.Forall₂ (fun x y => f x = g y) xs ys) : xs.map f = ys.map g := by
  induction h with
  | nil => rfl
  | cons hxy _ ih => rw [List.map_cons, List.map_cons, hxy, ih]

/-- Lists that agree under two functions, block by block, make the same list. -/
theorem flatMap_eq_of_forall₂ {f : α → List γ} {g : β → List γ} {xs : List α} {ys : List β}
    (h : List.Forall₂ (fun x y => f x = g y) xs ys) : xs.flatMap f = ys.flatMap g := by
  induction h with
  | nil => rfl
  | cons hxy _ ih => rw [List.flatMap_cons, List.flatMap_cons, hxy, ih]

/-! ## Blocks -/

/-- A member of a list made of parts is in one of them. -/
theorem exists_part_of_flatten {xss : List (List α)} {before after : List α} {x : α}
    (h : xss.flatten = before ++ x :: after) :
    ∃ earlier l r later, xss = earlier ++ (l ++ x :: r) :: later ∧
      before = earlier.flatten ++ l ∧ after = r ++ later.flatten := by
  rcases List.flatten_eq_append_iff.mp h with ⟨earlier, rest, rfl, rfl, hrest⟩ |
    ⟨earlier, l, y, r, later, rfl, rfl, hrest⟩
  · -- the member is the first one of the first part that is not empty
    obtain ⟨empty, r, later, rfl, hempty, rfl⟩ := List.flatten_eq_cons_iff.mp hrest.symm
    refine ⟨earlier ++ empty, [], r, later, by simp, ?_, rfl⟩
    rw [List.flatten_append, List.flatten_eq_nil_iff.mpr hempty]
    simp
  · obtain ⟨rfl, rfl⟩ := List.cons.inj hrest
    exact ⟨earlier, l, r, later, rfl, rfl, rfl⟩

/-- For each member of the blocks that `f` makes of the members of a list, the place of its
block; the first one is at `k`. -/
def blockIndices (f : α → List β) (k : Nat) (xs : List α) : List Nat :=
  (xs.zipIdx k).flatMap fun (x, i) => List.replicate (f x).length i

/-- The block of the first member takes its number, and those behind it the following ones. -/
theorem blockIndices_cons (f : α → List β) (k : Nat) (x : α) (xs : List α) :
    blockIndices f k (x :: xs) =
      List.replicate (f x).length k ++ blockIndices f (k + 1) xs := by
  rw [blockIndices, List.zipIdx_cons, List.flatMap_cons]
  rfl

/-- Blocks of the same lengths make lists of the same length. -/
theorem length_flatMap_eq {r : α → α → Prop} {f : α → List β} {xs ys : List α}
    (h : List.Forall₂ r xs ys) (hlength : ∀ x y, r x y → (f x).length = (f y).length) :
    (xs.flatMap f).length = (ys.flatMap f).length := by
  induction h with
  | nil => rfl
  | cons hxy _ ih =>
    rw [List.flatMap_cons, List.flatMap_cons, List.length_append, List.length_append, ih,
      hlength _ _ hxy]

/-- Where two lists made of blocks of the same lengths differ, the blocks at one place do. -/
theorem exists_block_ne {r : α → α → Prop} {f : α → List β} {xs ys : List α}
    (h : List.Forall₂ r xs ys) (hlength : ∀ x y, r x y → (f x).length = (f y).length) {n : Nat}
    (hne : (xs.flatMap f)[n]? ≠ (ys.flatMap f)[n]?) (k : Nat) :
    ∃ i x y, (blockIndices f k xs)[n]? = some (k + i) ∧ (blockIndices f k ys)[n]? = some (k + i) ∧
      xs[i]? = some x ∧ ys[i]? = some y ∧ r x y ∧ f x ≠ f y := by
  induction h generalizing n k with
  | nil => exact absurd rfl hne
  | @cons x y xs ys hxy _ ih =>
    have hblock := hlength x y hxy
    rw [List.flatMap_cons, List.flatMap_cons] at hne
    rw [blockIndices_cons, blockIndices_cons]
    by_cases hn : n < (f x).length
    · -- the place is in the first blocks
      have hn' : n < (f y).length := hblock ▸ hn
      rw [List.getElem?_append_left hn, List.getElem?_append_left hn'] at hne
      refine ⟨0, x, y, ?_, ?_, rfl, rfl, hxy, fun heq => hne (by rw [heq])⟩
      · rw [List.getElem?_append_left (by simpa using hn)]
        simp [hn]
      · rw [List.getElem?_append_left (by simpa using hn')]
        simp [hn']
    · -- the place is further on, as far behind the first block of either list
      have hx : (f x).length ≤ n := Nat.not_lt.mp hn
      have hy : (f y).length ≤ n := hblock ▸ hx
      rw [List.getElem?_append_right hx, List.getElem?_append_right hy, ← hblock] at hne
      obtain ⟨i, x', y', hi, hi', hx', hy', hdiffer⟩ := ih hne (k + 1)
      refine ⟨i + 1, x', y', ?_, ?_, hx', hy', hdiffer⟩
      · rw [List.getElem?_append_right (by simpa using hx), List.length_replicate, hi]
        congr 1
        omega
      · rw [List.getElem?_append_right (by simpa using hy), List.length_replicate, ← hblock, hi']
        congr 1
        omega

end DashQuery
