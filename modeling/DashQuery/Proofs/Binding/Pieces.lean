import DashQuery.BoundText
import DashQuery.Proofs.Lists

/-!
# Statement text put together of pieces

A `Piece` says how a piece of statement text was put together: of fixed texts, single
values and lists of values, one behind the other, joined with a separator, or in
parentheses, in any nesting.  Its `marks` are what it says, character by character,
with each value in its own place and no mention of placeholders; what `build` makes
of it has a placeholder wherever a value stands, and the values apart from it.

`BoundText.Spells b ms` says that `b` is the text of the marks `ms` with their values,
and each combinator keeps it (`Spells.join`, `Spells.andThen`, `Spells.parenthesized`).
A fixed text holds no placeholder, which is all that is asked of it, so what stands at
the n-th placeholder is the n-th value (`build_aligned`).
-/

namespace DashQuery

/-! ## Characters and values -/

/-- One character of a text, or a value in its place. -/
inductive Mark where
  | char (c : Char)
  | value (p : Param)
deriving DecidableEq

namespace Mark

/-- The mark in statement text. -/
def written : Mark → Char
  | char c => c
  | value _ => '?'

/-- The value at the mark. -/
def param? : Mark → Option Param
  | char _ => none
  | value p => some p

/-- A text as marks. -/
def ofText (text : String) : List Mark := text.toList.map char

/-- The marks of a text are written as the text. -/
theorem map_written_ofText (text : String) : (ofText text).map written = text.toList := by
  rw [ofText, List.map_map]
  exact List.map_id _

/-- The marks of a text hold no value. -/
theorem filterMap_param?_ofText (text : String) : (ofText text).filterMap param? = [] := by
  rw [ofText, List.filterMap_map]
  simp [Function.comp_def, param?]

/-- Where no placeholder stands for itself, there are as many as there are values. -/
theorem count_written {ms : List Mark} (h : char '?' ∉ ms) :
    (ms.map written).count '?' = (ms.filterMap param?).length := by
  induction ms with
  | nil => rfl
  | cons m ms ih =>
    rw [List.mem_cons, not_or] at h
    cases m with
    | char c =>
      -- a character is no placeholder, and a value is written as one
      have hc : c ≠ '?' := fun heq => h.1 (by rw [heq])
      rw [List.map_cons, written, List.count_cons_of_ne hc, ih h.2]
      rfl
    | value p =>
      rw [List.map_cons, written, List.count_cons_self, ih h.2]
      rfl

/-- The value that a placeholder stands for is the one with as many values before it as there are
placeholders before this one. -/
theorem value_at_placeholder {ms : List Mark} (h : char '?' ∉ ms) {i : Nat}
    (hi : (ms.map written)[i]? = some '?') :
    ∃ p, ms[i]? = some (value p) ∧
      (ms.filterMap param?)[((ms.map written).take i).count '?']? = some p := by
  induction ms generalizing i with
  | nil => cases hi
  | cons m ms ih =>
    rw [List.mem_cons, not_or] at h
    cases i with
    | zero =>
      -- the first mark is a placeholder only if it is a value
      cases m with
      | char c =>
        rw [List.map_cons, List.getElem?_cons_zero, Option.some.injEq] at hi
        exact absurd (congrArg char hi.symm) h.1
      | value p => exact ⟨p, rfl, rfl⟩
    | succ i =>
      -- a later one has the first mark before it, which counts if it is a value
      rw [List.map_cons, List.getElem?_cons_succ] at hi
      obtain ⟨p, hp, hparam⟩ := ih h.2 hi
      refine ⟨p, hp, ?_⟩
      rw [List.map_cons, List.take_succ_cons]
      cases m with
      | char c =>
        have hc : c ≠ '?' := fun heq => h.1 (by rw [heq])
        rw [written, List.count_cons_of_ne hc]
        exact hparam
      | value q =>
        rw [written, List.count_cons_self]
        exact hparam

end Mark

/-- A text without placeholders. -/
structure FixedText where
  text : String
  not_mem : '?' ∉ text.toList := by decide

/-- How a piece of statement text is put together. -/
inductive Piece where
  | empty
  | raw (text : FixedText)
  | param (value : Param)
  | paramList (values : List Param)
  | andThen (front back : Piece)
  | join (separator : FixedText) (parts : List Piece)
  | parenthesized (inside : Piece)

namespace Piece

mutual

/-- The text and its parameters. -/
def build : Piece → BoundText
  | empty => .empty
  | raw text => .raw text.text
  | param value => .param value
  | paramList values => .paramList values
  | andThen front back => front.build.andThen back.build
  | join separator parts => .join separator.text (buildAll parts)
  | parenthesized inside => inside.build.parenthesized

/-- The texts of several pieces. -/
def buildAll : List Piece → List BoundText
  | [] => []
  | p :: ps => p.build :: buildAll ps

end

/-- Marks of several pieces, with a separator between those that say something. -/
def joinMarks (separator : String) (parts : List (List Mark)) : List Mark :=
  (Mark.ofText separator).intercalate (parts.filter fun ms => !ms.isEmpty)

/-- Marks in parentheses; nothing stays nothing. -/
def encloseMarks (ms : List Mark) : List Mark :=
  if ms.isEmpty then [] else Mark.char '(' :: (ms ++ [Mark.char ')'])

mutual

/-- What the piece says, with its values in place. -/
def marks : Piece → List Mark
  | empty => []
  | raw text => Mark.ofText text.text
  | param value => [.value value]
  | paramList values => joinMarks ", " (values.map fun p => [.value p])
  | andThen front back => joinMarks " " [front.marks, back.marks]
  | join separator parts => joinMarks separator.text (marksAll parts)
  | parenthesized inside => encloseMarks inside.marks

/-- What several pieces say. -/
def marksAll : List Piece → List (List Mark)
  | [] => []
  | p :: ps => p.marks :: marksAll ps

end

end Piece

namespace BoundText

/-- The text is that of the marks, with a placeholder for each of their values and for nothing
else. -/
structure Spells (b : BoundText) (ms : List Mark) : Prop where
  text_eq : b.text.toList = ms.map Mark.written
  params_eq : b.params = ms.filterMap Mark.param?
  filled : Mark.char '?' ∉ ms

namespace Spells

variable {a b : BoundText} {ms ns : List Mark}

/-- A piece without marks is the empty one. -/
theorem isEmpty_eq (h : b.Spells ms) : b.isEmpty = ms.isEmpty := by
  rw [Bool.eq_iff_iff, BoundText.isEmpty_iff, List.isEmpty_iff, ← String.toList_inj, h.text_eq]
  simp

/-- A piece without text binds nothing. -/
theorem params_nil (h : b.Spells ms) (htext : b.text = "") : b.params = [] := by
  have hnil : ms = [] := by
    rw [← List.isEmpty_iff, ← h.isEmpty_eq]
    exact BoundText.isEmpty_iff.mpr htext
  rw [h.params_eq, hnil, List.filterMap_nil]

/-- The empty piece says nothing. -/
theorem empty : BoundText.empty.Spells [] := ⟨rfl, rfl, List.not_mem_nil⟩

/-- A fixed text says its characters, and none of them is a placeholder. -/
theorem raw (text : FixedText) : (BoundText.raw text.text).Spells (Mark.ofText text.text) where
  text_eq := (Mark.map_written_ofText _).symm
  params_eq := (Mark.filterMap_param?_ofText _).symm
  filled := by
    intro hmem
    obtain ⟨c, hc, heq⟩ := List.mem_map.mp hmem
    rw [Mark.char.injEq] at heq
    exact text.not_mem (heq ▸ hc)

/-- A single placeholder says its value. -/
theorem param (value : Param) : (BoundText.param value).Spells [.value value] :=
  ⟨by simp [BoundText.param, Mark.written], rfl, by simp⟩

/-- Pieces with a separator between them say what they say with its characters between. -/
theorem join (separator : FixedText) {parts : List BoundText} {mss : List (List Mark)}
    (h : List.Forall₂ Spells parts mss) :
    (BoundText.join separator.text parts).Spells (Piece.joinMarks separator.text mss) := by
  -- pieces without text are left out together with their marks
  have hkept : List.Forall₂ Spells (parts.filter fun p => !p.isEmpty)
      (mss.filter fun ms => !ms.isEmpty) :=
    List.rel_filter (fun _ _ hp => by simp only [hp.isEmpty_eq]) h
  unfold BoundText.join Piece.joinMarks
  generalize (parts.filter fun p => !p.isEmpty) = kept at hkept
  generalize (mss.filter fun ms => !ms.isEmpty) = shown at hkept
  have hseparator := Spells.raw separator
  refine ⟨?_, ?_, ?_⟩
  · -- the text of the pieces and of the separators
    rw [map_intercalate, Mark.map_written_ofText, String.toList_intercalate, List.map_map]
    have htexts := map_eq_of_forall₂ (hkept.imp fun _ _ hp => hp.text_eq)
    exact congrArg _ htexts
  · -- their values, as the separators have none
    rw [filterMap_intercalate (Mark.filterMap_param?_ofText _)]
    exact flatMap_eq_of_forall₂ (hkept.imp fun _ _ hp => hp.params_eq)
  · -- no placeholder stands for itself in any of them
    intro hmem
    rcases mem_intercalate hmem with hmem | ⟨ms, hms, hmem⟩
    · exact hseparator.filled hmem
    · obtain ⟨p, -, hp⟩ := exists_of_mem_right hkept hms
      exact hp.filled hmem

/-- Placeholders for several values are single placeholders, joined. -/
theorem paramList (values : List Param) :
    (BoundText.paramList values).Spells
      (Piece.joinMarks ", " (values.map fun p => [.value p])) := by
  rw [paramList_eq_join]
  refine Spells.join ⟨", ", by decide⟩ ?_
  rw [List.forall₂_map_left_iff, List.forall₂_map_right_iff, List.forall₂_same]
  exact fun p _ => Spells.param p

/-- A piece behind another one, with a space between them. -/
theorem andThen (ha : a.Spells ms) (hb : b.Spells ns) :
    (a.andThen b).Spells (Piece.joinMarks " " [ms, ns]) := by
  rw [andThen_eq_join hb.params_nil]
  exact Spells.join ⟨" ", by decide⟩ (.cons ha (.cons hb .nil))

/-- A piece in parentheses; without text it gets none. -/
theorem parenthesized (h : b.Spells ms) : b.parenthesized.Spells (Piece.encloseMarks ms) := by
  unfold BoundText.parenthesized Piece.encloseMarks
  rw [h.isEmpty_eq]
  split
  · next hnil =>
    rw [List.isEmpty_iff] at hnil
    exact hnil ▸ h
  · refine ⟨?_, ?_, ?_⟩
    -- the parentheses are characters and hold no value
    · simp [h.text_eq, Mark.written]
    · rw [h.params_eq, List.filterMap_cons_none rfl, List.filterMap_append,
        List.filterMap_cons_none rfl, List.filterMap_nil, List.append_nil]
    · intro hmem
      rcases List.mem_cons.mp hmem with heq | hmem
      · exact absurd heq (by decide)
      · rcases List.mem_append.mp hmem with hmem | heq
        · exact h.filled hmem
        · exact absurd (List.mem_singleton.mp heq) (by decide)

end Spells

end BoundText

namespace Piece

open BoundText (Spells)

mutual

/-- What is built of a piece is the text of its marks with their values. -/
theorem spells_build (p : Piece) : p.build.Spells p.marks := by
  cases p with
  | empty => exact .empty
  | raw text => exact .raw text
  | param value => exact .param value
  | paramList values => exact .paramList values
  | andThen front back => exact front.spells_build.andThen back.spells_build
  | join separator parts => exact .join separator (spells_buildAll parts)
  | parenthesized inside => exact inside.spells_build.parenthesized

/-- The same for several pieces, one by one. -/
theorem spells_buildAll (ps : List Piece) : List.Forall₂ Spells (buildAll ps) (marksAll ps) := by
  cases ps with
  | nil => exact .nil
  | cons p ps => exact .cons p.spells_build (spells_buildAll ps)

end

end Piece

namespace BoundText

/-- The text holds as many placeholders as there are values, and at each stands, in the marks, the
value with as many values before it as there are placeholders before this one. -/
structure Aligned (b : BoundText) (ms : List Mark) : Prop where
  text_eq : b.text.toList = ms.map Mark.written
  placeholders_eq : b.placeholders = b.params.length
  value_at : ∀ i, b.text.toList[i]? = some '?' →
    ∃ p, ms[i]? = some (.value p) ∧
      b.params[(b.text.toList.take i).count '?']? = some p
  params_nil : b.text = "" → b.params = []

/-- A piece that says its marks has its placeholders and values aligned. -/
theorem Spells.aligned {b : BoundText} {ms : List Mark} (h : b.Spells ms) : b.Aligned ms where
  text_eq := h.text_eq
  placeholders_eq := by rw [placeholders, h.text_eq, h.params_eq, Mark.count_written h.filled]
  value_at := by
    rw [h.text_eq, h.params_eq]
    exact fun i hi => Mark.value_at_placeholder h.filled hi
  params_nil := h.params_nil

/-- However a piece is put together, its placeholders and parameters are aligned, and an empty
piece before or behind it leaves no trace; and putting pieces one behind the other or joining them
may be grouped in any way. -/
theorem build_aligned :
    (∀ p : Piece, p.build.Aligned p.marks ∧
      empty.andThen p.build = p.build ∧ p.build.andThen empty = p.build) ∧
    (∀ a b c : BoundText, (a.andThen b).andThen c = a.andThen (b.andThen c)) ∧
    ∀ (separator : String) (xs ys : List BoundText),
      join separator (xs ++ ys) = join separator [join separator xs, join separator ys] :=
  ⟨fun p => ⟨p.spells_build.aligned, empty_andThen _, andThen_empty p.spells_build.params_nil⟩,
    andThen_assoc, join_append⟩

end BoundText

end DashQuery
