import DashQuery.Proofs.Lexing.Words
import DashQuery.Reference

/-!
# Column references in statement text

The parts of a reference stand between double quotes, with a dot between them if
there are two.  A valid name has valid parts, so its reference is read back as
exactly these words.
-/

namespace DashQuery

namespace ColumnRef

/-- The names that a reference is made of. -/
def parts : ColumnRef → List String
  | bare column => [column]
  | qualified qualifier column => [qualifier, column]

/-- The words of a reference. -/
def words : ColumnRef → List Word
  | bare column => [Word.quoted column]
  | qualified qualifier column => [Word.quoted qualifier, Word.dot, Word.quoted column]

/-- Every part of the reference is a valid name. -/
def IsValid (ref : ColumnRef) : Prop := ∀ part ∈ ref.parts, Name.isValid part = true

/-- No part of a reference is a placeholder. -/
theorem placeholder_not_mem_words (ref : ColumnRef) : Word.placeholder ∉ ref.words := by
  cases ref <;> simp [words, Word.placeholder, Word.quoted, Word.dot]

/-- A valid reference is read as its words. -/
theorem reads_text {ref : ColumnRef} (h : ref.IsValid) : Reads ref.text ref.words := by
  cases ref with
  | bare column => exact reads_quote (h column (by simp [parts]))
  | qualified qualifier column =>
    exact reads_qualified (h qualifier (by simp [parts])) (h column (by simp [parts]))

/-- The parts of a name's reference are the whole name, or the two sides of its split. -/
theorem mem_parts_ofName {name part : String} (h : part ∈ (ofName name).parts) :
    part = name ∨ ∃ a b, Name.split? name = some (a, b) ∧ (part = a ∨ part = b) := by
  unfold ofName at h
  split at h
  · next qualifier column hs =>
    refine .inr ⟨qualifier, column, hs, ?_⟩
    simpa [parts] using h
  · left
    simpa [parts] using h

/-- A valid name has a valid reference: a split takes only the dot away. -/
theorem isValid_ofName {name : String} (h : Name.isValid name = true) : (ofName name).IsValid := by
  intro part hpart
  rcases mem_parts_ofName hpart with rfl | ⟨a, b, hs, hside⟩
  · exact h
  · -- the sides are not empty, and their characters are characters of the whole
    obtain ⟨rfl, ha, hb, -⟩ := Name.eq_of_split? hs
    have hall := (Name.isValid_iff.mp h).2
    simp only [String.toList_append, List.mem_append] at hall
    rcases hside with rfl | rfl
    · exact Name.isValid_iff.mpr ⟨ha, fun c hc => hall c (.inl (.inl hc))⟩
    · exact Name.isValid_iff.mpr ⟨hb, fun c hc => hall c (.inr hc)⟩

end ColumnRef

/-- A name is written in a predicate as it is in every other clause. -/
theorem Name.quoteReference_eq_text (name : String) :
    Name.quoteReference name = (ColumnRef.ofName name).text := by
  unfold Name.quoteReference ColumnRef.ofName
  cases Name.split? name with
  | none => rfl
  | some parts =>
    simp only [ColumnRef.text, Name.quote, String.append_assoc]
    rfl

end DashQuery
