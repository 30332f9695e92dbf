import DashQuery.BoundText
import DashQuery.Proofs.Lexing.Words
import DashQuery.Proofs.Lists

/-!
# Words with values in place

A statement is text with placeholders and, apart from it, the values that they
stand for.  A `Slot` is a word of the statement or a value in a placeholder's
place, and `fill` puts the values in, the n-th one in the n-th place.

`BoundText.Shows b slots` says that a piece of statement, once its values are put
in, is `slots`.  Each combinator of `BoundText` keeps it:

* `Shows.raw`, `Shows.param`, `Shows.paramList`   the pieces
* `Shows.andThen`, `Shows.parenthesized`, `Shows.join`   what is made of pieces
* `Shows.fill_words`   reading the text and putting the values in gives the slots
-/

namespace DashQuery

/-- A word of a statement, or the value that a placeholder stands for. -/
inductive Slot where
  | fixed (w : Word)
  | value (p : Param)
deriving DecidableEq

namespace Slot

/-- The slot in statement text. -/
def written : Slot → Word
  | fixed w => w
  | value _ => Word.placeholder

/-- The value in the slot. -/
def param? : Slot → Option Param
  | fixed _ => none
  | value p => some p

/-- Whether the slot is a placeholder without a value. -/
def isOpen (slot : Slot) : Bool := slot == fixed Word.placeholder

/-- A fixed word is filled if it is no placeholder. -/
theorem isOpen_fixed_eq_false_iff {w : Word} :
    (fixed w).isOpen = false ↔ w ≠ Word.placeholder := by
  simp [isOpen]

/-- Fixed words are written as they are. -/
theorem map_written_fixed (ws : List Word) : (ws.map fixed).map written = ws := by
  rw [List.map_map]
  exact List.map_id ws

/-- Words hold no value. -/
theorem filterMap_param?_fixed (ws : List Word) : (ws.map fixed).filterMap param? = [] := by
  rw [List.filterMap_map]
  simp [Function.comp_def, param?]

end Slot

/-- Puts the values in place of the placeholders, in order. -/
def fill : List Word → List Param → List Slot
  | [], _ => []
  | w :: ws, ps =>
    if w = Word.placeholder then
      match ps with
      | [] => Slot.fixed w :: fill ws []
      | p :: ps => Slot.value p :: fill ws ps
    else Slot.fixed w :: fill ws ps

/-- Slots are what is written with their own values put in. -/
theorem fill_written {slots : List Slot} (h : ∀ slot ∈ slots, slot.isOpen = false) :
    fill (slots.map Slot.written) (slots.filterMap Slot.param?) = slots := by
  induction slots with
  | nil => rfl
  | cons slot slots ih =>
    have hrest := ih fun x hx => h x (List.mem_cons_of_mem _ hx)
    cases slot with
    | fixed w =>
      -- a fixed word that looks like a placeholder would take the value of the next one
      have hw : w ≠ Word.placeholder := Slot.isOpen_fixed_eq_false_iff.mp (h _ List.mem_cons_self)
      simp only [List.map_cons, Slot.written, List.filterMap_cons, Slot.param?, fill, hw, if_false]
      rw [hrest]
    | value p =>
      simp only [List.map_cons, Slot.written, List.filterMap_cons, Slot.param?, fill, if_true]
      rw [hrest]

/-- As many placeholders are written as there are values. -/
theorem count_placeholder_written {slots : List Slot} (h : ∀ slot ∈ slots, slot.isOpen = false) :
    (slots.map Slot.written).count Word.placeholder = (slots.filterMap Slot.param?).length := by
  induction slots with
  | nil => rfl
  | cons slot slots ih =>
    have hrest := ih fun x hx => h x (List.mem_cons_of_mem _ hx)
    cases slot with
    | fixed w =>
      -- a fixed word is no placeholder, and a value is written as one
      have hw : w ≠ Word.placeholder := Slot.isOpen_fixed_eq_false_iff.mp (h _ List.mem_cons_self)
      rw [List.map_cons, Slot.written, List.count_cons_of_ne hw, hrest]
      rfl
    | value p =>
      rw [List.map_cons, Slot.written, List.count_cons_self, hrest]
      rfl

/-! ## Slots with a keyword between them -/

/-- The slots of several entries with a keyword between those that say something. -/
def joinSlots (keyword : Word) (parts : List (List Slot)) : List Slot :=
  [Slot.fixed keyword].intercalate (parts.filter fun u => !u.isEmpty)

/-- Slots in parentheses; nothing stays nothing. -/
def enclose (slots : List Slot) : List Slot :=
  if slots.isEmpty then [] else
    Slot.fixed Word.leftParen :: (slots ++ [Slot.fixed Word.rightParen])

/-- Parentheses hold no value. -/
theorem params_enclose (slots : List Slot) :
    (enclose slots).filterMap Slot.param? = slots.filterMap Slot.param? := by
  unfold enclose
  split
  · next h => rw [List.isEmpty_iff.mp h]
  · rw [List.filterMap_cons_none rfl, List.filterMap_append, List.filterMap_cons_none rfl,
      List.filterMap_nil, List.append_nil]

/-- Only nothing stays nothing in parentheses. -/
theorem enclose_eq_nil_iff {slots : List Slot} : enclose slots = [] ↔ slots = [] := by
  unfold enclose
  cases slots <;> simp

/-- Parts show nothing together if each of them shows nothing. -/
theorem joinSlots_eq_nil_iff {keyword : Word} {parts : List (List Slot)} :
    joinSlots keyword parts = [] ↔ ∀ u ∈ parts, u = [] := by
  have hkept : joinSlots keyword parts = [] ↔ (parts.filter fun u => !u.isEmpty) = [] := by
    unfold joinSlots
    -- the parts that are kept are not empty, so they say something if there is one
    have hne : ∀ u ∈ parts.filter (fun u => !u.isEmpty), u ≠ [] := by
      intro u hu
      simpa using (List.mem_filter.mp hu).2
    cases hparts : parts.filter fun u => !u.isEmpty with
    | nil => exact ⟨fun _ => rfl, fun _ => rfl⟩
    | cons u us =>
      rw [hparts] at hne
      constructor
      · intro h
        exact absurd (eq_nil_of_intercalate_eq_nil h) (hne u List.mem_cons_self)
      · intro h
        cases h
  rw [hkept, List.filter_eq_nil_iff]
  simp

/-- Keywords hold no value. -/
theorem params_joinSlots (keyword : Word) (parts : List (List Slot)) :
    (joinSlots keyword parts).filterMap Slot.param? =
      parts.flatMap (List.filterMap Slot.param?) := by
  unfold joinSlots
  rw [filterMap_intercalate rfl]
  induction parts with
  | nil => rfl
  | cons u us ih =>
    rw [List.filter_cons, List.flatMap_cons, ← ih]
    split
    · rw [List.flatMap_cons]
    · next h =>
      -- a part that is left out holds no value
      have hnil : u = [] := by simpa using h
      rw [hnil, List.filterMap_nil, List.nil_append]

namespace BoundText

/-- The piece, with its values in place, is the list of slots. -/
structure Shows (b : BoundText) (slots : List Slot) : Prop where
  reads : Reads b.text (slots.map Slot.written)
  params : b.params = slots.filterMap Slot.param?
  /-- Every placeholder has its value. -/
  filled : ∀ slot ∈ slots, slot.isOpen = false
  /-- What says nothing has no text, not even blanks. -/
  text_nil : slots = [] → b.text = ""

namespace Shows

variable {a b : BoundText} {u v : List Slot}

/-- A piece that says something has text, for no text has no words. -/
theorem isEmpty_eq (h : b.Shows u) : b.isEmpty = u.isEmpty := by
  rw [Bool.eq_iff_iff, BoundText.isEmpty_iff, List.isEmpty_iff]
  constructor
  · intro htext
    -- an empty text has no words, so there is nothing written for any slot
    have hwords := h.reads.words_eq
    rw [htext, Reads.empty.words_eq] at hwords
    exact List.map_eq_nil_iff.mp hwords.symm
  · exact h.text_nil

/-- The empty piece shows nothing. -/
theorem empty : BoundText.empty.Shows [] := ⟨Reads.empty, rfl, by simp, fun _ => rfl⟩

/-- A fixed text shows its words. -/
theorem raw {text : String} {ws : List Word} (h : Reads text ws) (hne : ws ≠ [])
    (hopen : Word.placeholder ∉ ws) : (BoundText.raw text).Shows (ws.map Slot.fixed) where
  reads := by
    rw [Slot.map_written_fixed]
    exact h
  params := (Slot.filterMap_param?_fixed ws).symm
  filled := by
    intro slot hslot
    obtain ⟨w, hw, rfl⟩ := List.mem_map.mp hslot
    exact Slot.isOpen_fixed_eq_false_iff.mpr fun heq => hopen (heq ▸ hw)
  text_nil := fun hnil => absurd (List.map_eq_nil_iff.mp hnil) hne

/-- A placeholder is read as one. -/
theorem reads_placeholder : Reads "?" [Word.placeholder] :=
  reads_lexeme (c := '?') rfl (by decide) rfl (by decide)

/-- A single placeholder shows its value. -/
theorem param (value : Param) : (BoundText.param value).Shows [Slot.value value] :=
  ⟨reads_placeholder, rfl, by simp [Slot.isOpen], by simp⟩

/-- Several values with commas between them; there is at least one. -/
theorem paramList {values : List Param} (hne : values ≠ []) :
    (BoundText.paramList values).Shows
      ([Slot.fixed Word.comma].intercalate (values.map fun p => [Slot.value p])) where
  reads := by
    rw [map_intercalate, List.map_map]
    -- as many placeholders as there are values
    have htexts : List.replicate values.length "?" = values.map fun _ => "?" := by
      rw [List.map_const']
    simp only [BoundText.paramList, htexts]
    refine Reads.intercalate (fun ha hb => ?_) ?_
    · rw [List.append_assoc]
      exact ha.comma hb
    · rw [List.forall₂_map_left_iff, List.forall₂_map_right_iff, List.forall₂_same]
      exact fun _ _ => reads_placeholder
  params := by
    -- a comma is no parameter
    rw [filterMap_intercalate rfl, List.flatMap_map]
    simp [Slot.param?, BoundText.paramList]
  filled := by
    intro slot hslot
    -- neither a comma nor a value waits for one
    rcases mem_intercalate hslot with hsep | ⟨xs, hxs, hx⟩
    · rw [List.mem_singleton.mp hsep]
      decide
    · obtain ⟨p, -, rfl⟩ := List.mem_map.mp hxs
      rw [List.mem_singleton.mp hx]
      rfl
  text_nil := by
    intro hnil
    obtain ⟨p, ps, rfl⟩ := List.exists_cons_of_ne_nil hne
    exact absurd (eq_nil_of_intercalate_eq_nil hnil) (by simp)

/-- A piece behind another one shows what both show, one behind the other. -/
theorem andThen (ha : a.Shows u) (hb : b.Shows v) : (a.andThen b).Shows (u ++ v) := by
  unfold BoundText.andThen
  split
  · next h =>
    -- an empty side brings no blank with it
    rw [ha.isEmpty_eq, List.isEmpty_iff] at h
    rw [h, List.nil_append]
    exact hb
  · next hane =>
    split
    · next h =>
      rw [hb.isEmpty_eq, List.isEmpty_iff] at h
      rw [h, List.append_nil]
      exact ha
    -- otherwise the sides stand behind one another, with a blank between them
    · rw [ha.isEmpty_eq, List.isEmpty_iff] at hane
      refine ⟨?_, ?_, ?_, fun h => absurd (List.append_eq_nil_iff.mp h).1 hane⟩
      · rw [List.map_append]
        exact ha.reads.space hb.reads
      · rw [List.filterMap_append, ← ha.params, ← hb.params]
      · intro slot hslot
        exact (List.mem_append.mp hslot).elim (ha.filled slot) (hb.filled slot)

/-- A piece in parentheses shows what it shows in parentheses, or nothing. -/
theorem parenthesized (h : b.Shows u) : b.parenthesized.Shows (enclose u) := by
  unfold BoundText.parenthesized enclose
  rw [h.isEmpty_eq]
  split
  · next hnil =>
    -- nothing stays nothing
    rw [List.isEmpty_iff] at hnil
    exact hnil ▸ h
  · refine ⟨?_, ?_, ?_, ?_⟩
    · rw [List.map_cons, List.map_append]
      exact h.reads.parens
    -- parentheses hold no value
    · rw [h.params, ← params_enclose]
      simp [enclose, *]
    · intro slot hslot
      simp only [List.mem_cons, List.mem_append, List.not_mem_nil, or_false] at hslot
      rcases hslot with rfl | hslot | rfl
      · rfl
      · exact h.filled slot hslot
      · rfl
    · intro hnil
      cases hnil

/-- Several pieces with a keyword between those that say something. -/
theorem join {separator : String} {keyword : Word}
    (hsep : ∀ {a b u v}, Reads a u → Reads b v →
      Reads (a ++ separator ++ b) (u ++ [keyword] ++ v))
    (hopen : keyword ≠ Word.placeholder) {parts : List BoundText} {us : List (List Slot)}
    (h : List.Forall₂ Shows parts us) :
    (BoundText.join separator parts).Shows (joinSlots keyword us) := by
  -- pieces that say nothing are left out together with what they show
  have hkept : List.Forall₂ Shows (parts.filter fun p => !p.isEmpty)
      (us.filter fun u => !u.isEmpty) :=
    List.rel_filter (fun _ _ hp => by simp only [hp.isEmpty_eq]) h
  unfold BoundText.join joinSlots
  -- from here on only the pieces that are kept matter
  generalize (parts.filter fun p => !p.isEmpty) = kept at hkept
  have hne : ∀ u ∈ us.filter (fun u => !u.isEmpty), u ≠ [] := by
    intro u hu
    simpa using (List.mem_filter.mp hu).2
  generalize (us.filter fun u => !u.isEmpty) = shown at hkept hne
  refine ⟨?_, ?_, ?_, ?_⟩
  · rw [map_intercalate]
    refine Reads.intercalate hsep ?_
    rw [List.forall₂_map_left_iff, List.forall₂_map_right_iff]
    exact hkept.imp fun _ _ hp => hp.reads
  · -- the keyword between the pieces holds no value
    rw [filterMap_intercalate rfl]
    exact flatMap_eq_of_forall₂ (hkept.imp fun _ _ hp => hp.params)
  · intro slot hslot
    rcases mem_intercalate hslot with hmem | ⟨u, hu, hx⟩
    · rw [List.mem_singleton.mp hmem]
      exact Slot.isOpen_fixed_eq_false_iff.mpr hopen
    · obtain ⟨p, -, hp⟩ := exists_of_mem_right hkept hu
      exact hp.filled slot hx
  · intro hnil
    cases hkept with
    | nil => rfl
    | cons hp hrest =>
      exact absurd (eq_nil_of_intercalate_eq_nil hnil) (hne _ List.mem_cons_self)

/-- Reading the text and putting the values in gives the slots. -/
theorem fill_words (h : b.Shows u) : fill (words b.text) b.params = u := by
  rw [h.reads.words_eq, h.params, fill_written h.filled]

/-- The text has as many placeholders as there are values. -/
theorem count_words (h : b.Shows u) : (words b.text).count Word.placeholder = b.params.length := by
  rw [h.reads.words_eq, count_placeholder_written h.filled, ← h.params]

end Shows

end BoundText

end DashQuery
