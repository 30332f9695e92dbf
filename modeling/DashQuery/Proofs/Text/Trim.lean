import DashQuery.Proofs.Lists
import DashQuery.Text.Blank
import Mathlib.Data.List.DropRight

/-!
# Blanks at the ends of a text

Trimming takes the blanks at both ends away.  A text without any is `Trimmed`; what is trimmed
stays trimmed when texts are put together.

## Key results

- `exists_eq_trimBlanks`: a text is its trimmed part between blanks
- `trimBlanks_eq`: a trimmed text between blanks is what trimming leaves
- `Blanks.front`: characters that are no blanks come from in front of the blanks
-/

namespace DashQuery

/-- Nothing but blanks. -/
def Blanks (w : List Char) : Prop := ∀ c ∈ w, isBlank c = true

/-- A text that starts and ends with characters that are no blanks. -/
structure Trimmed (cs : List Char) : Prop where
  head : ∃ c ∈ cs.head?, isBlank c = false
  last : ∃ c ∈ cs.getLast?, isBlank c = false

/-! ## Nothing but blanks -/

/-- A blank is none of the characters that are no blanks. -/
theorem ne_of_isBlank {c d : Char} (h : isBlank c = true) (hd : isBlank d = false) : c ≠ d := by
  rintro rfl
  rw [h] at hd
  exact absurd hd (by decide)

/-- A text that is more than blanks holds another character. -/
theorem not_blanks_iff {cs : List Char} : ¬Blanks cs ↔ ∃ c ∈ cs, isBlank c = false := by
  simp [Blanks]

/-- One more blank in front makes blanks. -/
theorem Blanks.cons {c : Char} {w : List Char} (hw : Blanks w) (hc : isBlank c = true) :
    Blanks (c :: w) := by
  intro d hd
  rcases List.mem_cons.mp hd with rfl | hd
  · exact hc
  · exact hw d hd

/-- Blanks start with no other character. -/
theorem Blanks.head {w : List Char} (hw : Blanks w) {d : Char} (hd : isBlank d = false) :
    w.head? ≠ some d := by
  cases w with
  | nil => simp
  | cons c w =>
    rw [List.head?_cons, ne_eq, Option.some.injEq]
    exact ne_of_isBlank (hw c List.mem_cons_self) hd

/-- Blanks behind a text do not make it start with another character. -/
theorem Blanks.head_append {x w : List Char} (hw : Blanks w) {d : Char} (hd : isBlank d = false)
    (hx : x.head? ≠ some d) : (x ++ w).head? ≠ some d := by
  cases x with
  | nil => exact hw.head hd
  | cons c x => exact hx

/-- Characters that are no blanks come from in front of the blanks. -/
theorem Blanks.front {x w back : List Char} (hw : Blanks w) (front : List Char)
    (h : x ++ w = front ++ back) (hfront : ∀ c ∈ front, isBlank c = false) :
    ∃ rest, x = front ++ rest ∧ back = rest ++ w := by
  refine append_eq_append_of_disjoint h fun c hc hcw => ?_
  have hblank := hw c hcw
  rw [hfront c hc] at hblank
  cases hblank

/-! ## Trimming -/

/-- Trimming takes the blanks away in front and then behind. -/
theorem trimBlanks_eq_rdropWhile (cs : List Char) :
    trimBlanks cs = (cs.dropWhile isBlank).rdropWhile isBlank := rfl

/-- Trimming takes blanks away from both ends. -/
theorem exists_eq_trimBlanks (cs : List Char) :
    ∃ front back, Blanks front ∧ Blanks back ∧ cs = front ++ trimBlanks cs ++ back := by
  refine ⟨cs.takeWhile isBlank, (cs.dropWhile isBlank).rtakeWhile isBlank,
    fun c hc => List.mem_takeWhile_imp hc, fun c hc => List.mem_rtakeWhile_imp hc, ?_⟩
  rw [trimBlanks_eq_rdropWhile, List.append_assoc, List.rdropWhile_append_rtakeWhile,
    List.takeWhile_append_dropWhile]

/-- Nothing is left of blanks. -/
theorem trimBlanks_eq_nil {cs : List Char} (h : Blanks cs) : trimBlanks cs = [] := by
  rw [trimBlanks_eq_rdropWhile, List.dropWhile_eq_nil_iff.mpr h, List.rdropWhile_nil]

/-- The first character that is no blank is found behind the blanks in front. -/
theorem exists_dropWhile_eq_cons {cs : List Char} (h : ∃ c ∈ cs, isBlank c = false) :
    ∃ d ds, cs.dropWhile isBlank = d :: ds ∧ isBlank d = false := by
  rcases hdrop : cs.dropWhile isBlank with _ | ⟨d, ds⟩
  · obtain ⟨c, hc, hblank⟩ := h
    rw [List.dropWhile_eq_nil_iff.mp hdrop c hc] at hblank
    cases hblank
  · have hhead := List.head?_dropWhile_not isBlank cs
    rw [hdrop] at hhead
    exact ⟨d, ds, rfl, by simpa using hhead⟩

/-- The first character that is no blank stays the first one when the end is trimmed. -/
theorem head?_trimBlanks {cs ds : List Char} {d : Char} (h : cs.dropWhile isBlank = d :: ds)
    (hd : isBlank d = false) : (trimBlanks cs).head? = some d := by
  rw [trimBlanks_eq_rdropWhile, h]
  have hne : (d :: ds).rdropWhile isBlank ≠ [] := by
    intro hnil
    rw [List.rdropWhile_eq_nil_iff.mp hnil d List.mem_cons_self] at hd
    cases hd
  -- what is left is a front of the text, so they start alike
  obtain ⟨e, es, hes⟩ := List.exists_cons_of_ne_nil hne
  obtain ⟨back, hback⟩ := List.rdropWhile_prefix isBlank (l := d :: ds)
  rw [hes, List.cons_append, List.cons.injEq] at hback
  rw [hes, hback.1, List.head?_cons]

/-- A text that goes on behind more than blanks starts there when it is trimmed. -/
theorem head?_trimBlanks_append {front : List Char} (h : ∃ c ∈ front, isBlank c = false)
    (cs : List Char) :
    ∃ c ∈ front, isBlank c = false ∧ (trimBlanks (front ++ cs)).head? = some c := by
  obtain ⟨d, ds, hdrop, hd⟩ := exists_dropWhile_eq_cons h
  have hmem : d ∈ front := (List.dropWhile_sublist isBlank).subset (hdrop ▸ List.mem_cons_self)
  have happend : (front ++ cs).dropWhile isBlank = d :: (ds ++ cs) := by
    rw [List.dropWhile_append, hdrop]
    rfl
  exact ⟨d, hmem, hd, head?_trimBlanks happend hd⟩

/-- What is left of more than blanks is trimmed. -/
theorem trimmed_trimBlanks {cs : List Char} (h : ¬Blanks cs) : Trimmed (trimBlanks cs) := by
  obtain ⟨d, ds, hdrop, hd⟩ := exists_dropWhile_eq_cons (not_blanks_iff.mp h)
  have hhead := head?_trimBlanks hdrop hd
  refine ⟨⟨d, hhead, hd⟩, ?_⟩
  have hne : trimBlanks cs ≠ [] := List.ne_nil_of_mem (List.mem_of_mem_head? hhead)
  refine ⟨_, List.getLast?_eq_some_getLast hne, ?_⟩
  rw [← Bool.not_eq_true]
  exact List.rdropWhile_last_not isBlank _ hne

/-- A trimmed text does not end with a blank that it holds. -/
theorem Trimmed.exists_behind {front back : List Char} {b : Char} (h : Trimmed (front ++ b :: back))
    (hb : isBlank b = true) : ∃ c ∈ back, isBlank c = false := by
  obtain ⟨c, hc, hblank⟩ := h.last
  rw [Option.mem_def, List.getLast?_append, List.getLast?_cons, Option.some_or] at hc
  have hmem : c ∈ b :: back := List.mem_of_getLast? (by rwa [List.getLast?_cons])
  rcases List.mem_cons.mp hmem with rfl | hback
  · rw [hb] at hblank
    cases hblank
  · exact ⟨c, hback, hblank⟩

/-- Whatever stands in between, texts that are trimmed make a text that is trimmed. -/
theorem Trimmed.append {front back : List Char} (hfront : Trimmed front) (between : List Char)
    (hback : Trimmed back) : Trimmed (front ++ between ++ back) := by
  obtain ⟨c, hc, hhead⟩ := hfront.head
  obtain ⟨d, hd, hlast⟩ := hback.last
  refine ⟨⟨c, ?_, hhead⟩, ⟨d, ?_, hlast⟩⟩
  · rw [Option.mem_def] at hc ⊢
    rw [List.append_assoc, List.head?_append, hc, Option.some_or]
  · rw [Option.mem_def] at hd ⊢
    rw [List.getLast?_append, hd, Option.some_or]

/-- Trimmed parts with a separator between them are trimmed, as the first and the last one are. -/
theorem Trimmed.intercalate (sep : List Char) {parts : List (List Char)} (hne : parts ≠ [])
    (h : ∀ part ∈ parts, Trimmed part) : Trimmed (sep.intercalate parts) := by
  induction parts with
  | nil => exact absurd rfl hne
  | cons part parts ih =>
    have hpart : Trimmed part := h part List.mem_cons_self
    cases parts with
    | nil => rwa [List.intercalate_singleton]
    | cons part' parts =>
      -- the first part stays in front, the last one of the rest behind
      rw [List.intercalate_cons_cons]
      exact hpart.append sep (ih (List.cons_ne_nil _ _) fun p hp => h p (List.mem_cons_of_mem _ hp))

/-- What is trimmed is left when the blanks around it are taken away. -/
theorem trimBlanks_eq {front core back : List Char} (hfront : Blanks front) (hcore : Trimmed core)
    (hback : Blanks back) : trimBlanks (front ++ core ++ back) = core := by
  obtain ⟨c, hc, hhead⟩ := hcore.head
  obtain ⟨d, hd, hlast⟩ := hcore.last
  obtain ⟨cs, rfl⟩ := List.head?_eq_some_iff.mp hc
  -- in front the blanks end where the core starts
  have hdrop : (front ++ c :: cs ++ back).dropWhile isBlank = c :: cs ++ back := by
    rw [List.append_assoc, List.dropWhile_append_of_pos hfront, List.cons_append,
      List.dropWhile_cons_of_neg (by simp [hhead])]
  -- behind they end where the core ends, read from the back
  have hreverse : (c :: cs).reverse.dropWhile isBlank = (c :: cs).reverse := by
    rw [← List.head?_reverse] at hd
    obtain ⟨ds, hds⟩ := List.head?_eq_some_iff.mp hd
    rw [hds, List.dropWhile_cons_of_neg (by simp [hlast])]
  have hbackReverse : ∀ e ∈ back.reverse, isBlank e = true := fun e he =>
    hback e (List.mem_reverse.mp he)
  rw [trimBlanks, hdrop, List.reverse_append, List.dropWhile_append_of_pos hbackReverse, hreverse,
    List.reverse_reverse]

/-- A text that trimming leaves as it is starts and ends with no blank. -/
theorem trimmed_of_trimLine_eq_self {text : String} (hne : text ≠ "") (h : trimLine text = text) :
    Trimmed text.toList := by
  have hcs : trimBlanks text.toList = text.toList := by
    rw [← String.toList_ofList (l := trimBlanks text.toList)]
    exact congrArg String.toList h
  rw [← hcs]
  refine trimmed_trimBlanks fun hblanks => hne ?_
  rw [trimBlanks_eq_nil hblanks] at hcs
  exact String.toList_eq_nil_iff.mp hcs.symm

end DashQuery
