import DashQuery.Statement.Compile
import Mathlib.Tactic.SplitIfs

/-!
# Kinds and affinities

A database stores the values of a column by the affinity of its declared type, which it
finds by looking for words in the declaration, whole numbers first.  The kind of a column
is found with the same words, but `BLOB` is looked for first.  So kind and affinity part
exactly where a declaration holds `BLOB` beside a word for whole numbers or text.

## Key results

- `ColumnKind.ofDeclaration_eq`: the rules for kinds, in the order in which they are tried
- `ColumnKind.affinity_ofDeclaration_iff`: when a kind is one of the declared affinity
- `ColumnKind.isNumeric_ofDeclaration_iff`: which declared columns cannot be summed up
- `ColumnKind.declared_affinity`: kinds, affinities and sums of declared columns
-/

namespace DashQuery

/-- Some part of the declaration is the word, but perhaps for ASCII case. -/
def Mentions (declaration word : String) : Prop :=
  ∃ part, part <:+: declaration.toList ∧ word.toList.map Char.toUpper = part.map Char.toUpper

/-- The declaration holds one of some words. -/
def MentionsOneOf (declaration : String) (words : List String) : Prop :=
  ∃ word ∈ words, Mentions declaration word

/-- A declaration mentions a word if that occurs in it, both in capitals. -/
theorem mentions_iff_occursIn {declaration word : String} :
    Mentions declaration word ↔ ColumnKind.occursIn (word.toList.map Char.toUpper)
      (declaration.toList.map Char.toUpper) = true := by
  rw [ColumnKind.occursIn_iff, List.infix_map_iff, Mentions]

instance (declaration word : String) : Decidable (Mentions declaration word) :=
  decidable_of_iff _ mentions_iff_occursIn.symm

instance (declaration : String) (words : List String) :
    Decidable (MentionsOneOf declaration words) :=
  inferInstanceAs (Decidable (∃ word ∈ words, Mentions declaration word))

/-- How a database stores the values of a column. -/
inductive Affinity where
  | integer
  | text
  | blob
  | real
  | numeric
deriving DecidableEq

namespace Affinity

/-- The words of text types. -/
def textWords : List String := ["CHAR", "CLOB", "TEXT"]

/-- The words of floating-point types. -/
def realWords : List String := ["REAL", "FLOA", "DOUB"]

/-- The affinity of a declared type; the first rule that holds decides. -/
def ofDeclaration (declaration : String) : Affinity :=
  if Mentions declaration "INT" then integer
  else if MentionsOneOf declaration textWords then text
  else if Mentions declaration "BLOB" ∨ declaration = "" then blob
  else if MentionsOneOf declaration realWords then real
  else numeric

end Affinity

namespace ColumnKind

/-- The affinity that columns of a kind are to have. -/
def affinity : ColumnKind → Affinity
  | integer => .integer
  | text => .text
  | unknown => .blob
  | real => .real
  | numeric | boolean | date => .numeric

/-- Whether a word in capitals occurs is whether it is mentioned. -/
theorem occursIn_eq_decide {declaration word : String}
    (h : word.toList.map Char.toUpper = word.toList) :
    occursIn word.toList (declaration.toList.map Char.toUpper) =
      decide (Mentions declaration word) := by
  rw [Bool.eq_iff_iff, decide_eq_true_iff, mentions_iff_occursIn, h]

/-- The rules for kinds, in the order in which they are tried. -/
theorem ofDeclaration_eq (declaration : String) : ofDeclaration declaration =
    if declaration = "" ∨ Mentions declaration "BLOB" then unknown
    else if Mentions declaration "INT" then integer
    else if MentionsOneOf declaration Affinity.textWords then text
    else if MentionsOneOf declaration Affinity.realWords then real
    else if Mentions declaration "BOOL" then boolean
    else if MentionsOneOf declaration ["DATE", "TIME"] then date
    else numeric := by
  -- a declaration is empty in capitals only if it is so in any
  have hempty : (declaration.toList.map Char.toUpper).isEmpty = decide (declaration = "") := by
    rw [Bool.eq_iff_iff, List.isEmpty_iff, decide_eq_true_iff, List.map_eq_nil_iff,
      String.toList_eq_nil_iff]
  -- the rules for several words
  have hwords : ∀ words, MentionsOneOf declaration words ↔
      words.any (fun word => decide (Mentions declaration word)) = true := by
    simp [MentionsOneOf]
  simp (disch := decide) only [ofDeclaration, hempty, occursIn_eq_decide]
  simp [hwords, Affinity.textWords, Affinity.realWords, or_assoc]

/-- The declaration holds a word for bytes beside one for whole numbers or text, so that it matters
which is looked for first. -/
def IsContested (declaration : String) : Prop :=
  Mentions declaration "BLOB" ∧
    (Mentions declaration "INT" ∨ MentionsOneOf declaration Affinity.textWords)

instance (declaration : String) : Decidable (IsContested declaration) :=
  inferInstanceAs (Decidable (_ ∧ _))

/-- Whatever is contested is of unknown kind. -/
theorem IsContested.ofDeclaration_eq {declaration : String} (h : IsContested declaration) :
    ofDeclaration declaration = unknown := by
  rw [ColumnKind.ofDeclaration_eq, if_pos (.inr h.1)]

/-- A kind is one of the declared affinity exactly if the declaration is not contested. -/
theorem affinity_ofDeclaration_iff {declaration : String} :
    (ofDeclaration declaration).affinity = Affinity.ofDeclaration declaration ↔
      ¬IsContested declaration := by
  by_cases hempty : declaration = ""
  · subst hempty
    decide
  rw [ofDeclaration_eq, Affinity.ofDeclaration, IsContested]
  by_cases hblob : Mentions declaration "BLOB"
  · -- the kind is unknown, while the affinity depends on the words that it looks for earlier
    rw [if_pos (.inr hblob), affinity]
    by_cases hint : Mentions declaration "INT"
    · simp [hint, hblob]
    · by_cases htext : MentionsOneOf declaration Affinity.textWords
      · simp [hint, htext, hblob]
      · simp [hint, htext, hblob]
  · -- without a word for bytes, both look for the other words in one order
    simp only [hempty, hblob, or_self, if_false, false_and, not_false_eq_true, iff_true,
      apply_ite affinity]
    simp only [affinity, ite_self]

/-- What is contested is of integer or text affinity. -/
theorem IsContested.affinity_eq {declaration : String} (h : IsContested declaration) :
    Affinity.ofDeclaration declaration = .integer ∨ Affinity.ofDeclaration declaration = .text := by
  rw [Affinity.ofDeclaration]
  by_cases hint : Mentions declaration "INT"
  · exact .inl (if_pos hint)
  · rw [if_neg hint, if_pos (h.2.resolve_left hint)]
    exact .inr rfl

/-- Of the kinds of other than numeric affinity, only text is not summed up. -/
theorem isNumeric_iff_of_affinity_ne_numeric {kind : ColumnKind} (h : kind.affinity ≠ .numeric) :
    kind.isNumeric = false ↔ kind.affinity = .text := by
  revert h
  cases kind <;> decide

/-- Among the kinds of numeric affinity, those of truth values and dates are not summed up. -/
theorem isNumeric_of_affinity_eq_numeric {declaration : String}
    (h : (ofDeclaration declaration).affinity = .numeric) :
    (ofDeclaration declaration).isNumeric = false ↔
      MentionsOneOf declaration ["BOOL", "DATE", "TIME"] := by
  have hwords : MentionsOneOf declaration ["BOOL", "DATE", "TIME"] ↔
      Mentions declaration "BOOL" ∨ MentionsOneOf declaration ["DATE", "TIME"] := by
    simp [MentionsOneOf]
  rw [hwords]
  rw [ofDeclaration_eq] at h ⊢
  split_ifs at h ⊢ with hblob hint htext hreal hbool hdate
  -- the first four rules give kinds of another affinity
  iterate 4 exact nomatch h
  · exact iff_of_true rfl (.inl hbool)
  · exact iff_of_true rfl (.inr hdate)
  · exact iff_of_false Bool.noConfusion (not_or.mpr ⟨hbool, hdate⟩)

/-- Sums are refused over columns of text affinity, unless they are contested, and over truth values
and dates. -/
theorem isNumeric_ofDeclaration_iff {declaration : String} :
    (ofDeclaration declaration).isNumeric = false ↔
      Affinity.ofDeclaration declaration = .text ∧ ¬IsContested declaration ∨
        Affinity.ofDeclaration declaration = .numeric ∧
          MentionsOneOf declaration ["BOOL", "DATE", "TIME"] := by
  by_cases hcontested : IsContested declaration
  · -- then the kind is unknown, over which nothing is refused
    rw [hcontested.ofDeclaration_eq]
    rcases hcontested.affinity_eq with haffinity | haffinity
    · simp [haffinity, isNumeric]
    · simp [haffinity, hcontested, isNumeric]
  · rw [← affinity_ofDeclaration_iff.mpr hcontested]
    by_cases hnumeric : (ofDeclaration declaration).affinity = .numeric
    · simp [isNumeric_of_affinity_eq_numeric hnumeric, hnumeric]
    · simp [isNumeric_iff_of_affinity_ne_numeric hnumeric, hnumeric, hcontested]

end ColumnKind

/-- A column is refused under a function exactly if the function is a sum or an average and the
column is of a kind over which these make no sense. -/
theorem Aggregate.check_eq_error_iff {function : Aggregate} {scope : Scope} {column : String}
    {kind : ColumnKind} (h : scope.kind? column = some kind) :
    function.check scope column = .error (.nonAggregatableColumn column function.name) ↔
      function.requiresNumeric = true ∧ kind.isNumeric = false := by
  unfold check
  rw [h, Option.all_some]
  split
  · next hrefused => simpa using hrefused
  · next hpasses => simpa using hpasses

/-- Kinds, affinities and sums of declared columns.  The kind of a column is one of its declared
affinity exactly if the declaration is not contested; otherwise it is unknown.  Sums and averages
are refused exactly over columns of text affinity that are not contested, and over those of numeric
affinity that are declared as truth values or dates. -/
theorem ColumnKind.declared_affinity (declaration : String) :
    ((ofDeclaration declaration).affinity = Affinity.ofDeclaration declaration ↔
      ¬IsContested declaration) ∧
    (IsContested declaration → ofDeclaration declaration = unknown) ∧
    ∀ (function : Aggregate) (scope : Scope) (column : String),
      function.requiresNumeric = true → scope.kind? column = some (ofDeclaration declaration) →
        (function.check scope column = .error (.nonAggregatableColumn column function.name) ↔
          Affinity.ofDeclaration declaration = .text ∧ ¬IsContested declaration ∨
            Affinity.ofDeclaration declaration = .numeric ∧
              MentionsOneOf declaration ["BOOL", "DATE", "TIME"]) := by
  refine ⟨affinity_ofDeclaration_iff, IsContested.ofDeclaration_eq,
    fun function scope column hsum hkind => ?_⟩
  -- a function that needs a number is refused over the kinds that are none
  rw [Aggregate.check_eq_error_iff hkind, isNumeric_ofDeclaration_iff]
  exact and_iff_right hsum

/-- A scope with one column of a declared type. -/
def Scope.declaring (column declaration : String) : Scope :=
  Scope.empty.insert column (ColumnKind.ofDeclaration declaration)

/-- The sum of a column of text affinity is not refused if the declaration holds `BLOB` as well. -/
theorem ColumnKind.textBlob_affinity :
    Affinity.ofDeclaration "Text Blob" = .text ∧ ofDeclaration "Text Blob" = unknown ∧
      Aggregate.sum.check (Scope.declaring "note" "Text Blob") "note" = .ok () ∧
      Aggregate.sum.check (Scope.declaring "note" "varchar(20)") "note" =
        .error (.nonAggregatableColumn "note" "SUM") := by
  obtain ⟨-, hunknown, -⟩ := declared_affinity "Text Blob"
  obtain ⟨-, -, hsum⟩ := declared_affinity "varchar(20)"
  exact ⟨by decide, hunknown (by decide), rfl,
    (hsum .sum (Scope.declaring "note" "varchar(20)") "note" rfl rfl).mpr (.inl (by decide))⟩

end DashQuery
