import DashQuery.Proofs.Expression.Composition
import DashQuery.Proofs.Expression.Units

/-!
# Names of types

The keywords of expressions include the names of types, which stand behind `AS` in
a cast.  A database does not reserve these words: anywhere else it reads one as the
name of a column.  The check passes every keyword where it stands and looks at
nothing around it.  So only the second name of a reference is looked up if it is
such a word; by itself each of them is accepted in every scope.

## Key results

- `Accepts.exchange_keyword`: a keyword may be exchanged for any other
- `validate_keyword`: every keyword is an expression, whatever the scope
- `typeWords_covered`: when names of types read no column but legal ones
-/

namespace DashQuery.Expression

/-- The keywords that name types. -/
def typeWords : List String := ["INTEGER", "REAL", "TEXT", "NUMERIC"]

/-- Whether a token is the unquoted name of a type, in capitals or not. -/
def isTypeWord (t : Token) : Bool :=
  t.kind == .identifier && typeWords.contains (capitals t.content)

/-- Whether a token is the keyword in front of a type or an alias. -/
def isAs (t : Token) : Bool := t.kind == .identifier && capitals t.content == "AS"

/-- The token, between `before` and `after`, stands where a type is expected, or is a part of a
reference to a legal column or an alias: all of it, or its first or second name. -/
inductive IsCovered (scope : Scope) (aliases : List String) (before : List Token) (t : Token)
    (after : List Token) : Prop
  | type {a : Token} {earlier : List Token} (hbefore : before = earlier ++ [a])
      (has : isAs a = true)
  | bare (hbefore : ∀ d ∈ before.getLast?, d.kind ≠ .dot) (hafter : nextIs .dot after = false)
      (hknown : scope.contains t.content = true ∨ t.content ∈ aliases)
  | qualifier {d c : Token} {later : List Token} (hafter : after = d :: c :: later)
      (hdot : d.kind = .dot) (hcolumn : c.isName = true)
      (hknown : scope.contains (t.content ++ "." ++ c.content) = true ∨
        t.content ++ "." ++ c.content ∈ aliases)
  | column {a d : Token} {earlier : List Token} (hbefore : before = earlier ++ [a, d])
      (hqualifier : a.isName = true) (hdot : d.kind = .dot)
      (hknown : scope.contains (a.content ++ "." ++ t.content) = true ∨
        a.content ++ "." ++ t.content ∈ aliases)

/-- Every name of a type is covered where it stands. -/
def TypeWordsCovered (scope : Scope) (aliases : List String) (ts : List Token) : Prop :=
  ∀ before t after, ts = before ++ t :: after → isTypeWord t = true →
    IsCovered scope aliases before t after

/-- The words for types are keywords. -/
theorem isKeyword_of_typeWord {word : String} (h : capitals word ∈ typeWords) :
    isKeyword word = true := by
  have hkeywords : ∀ k ∈ typeWords, k ∈ keywords ∧ k = capitals k := by decide
  exact isKeyword_iff.mpr ⟨_, hkeywords _ h⟩

/-- A token is such a word if it is an unquoted name with the capitals of one. -/
theorem isTypeWord_iff {t : Token} :
    isTypeWord t = true ↔ t.kind = .identifier ∧ capitals t.content ∈ typeWords := by
  rw [isTypeWord, Bool.and_eq_true, beq_iff_eq, List.contains_iff_mem]

/-- A word for a type is taken for one whatever it may name. -/
theorem isReserved_of_isTypeWord {t : Token} (h : isTypeWord t = true) : isReserved t = true := by
  obtain ⟨hkind, hword⟩ := isTypeWord_iff.mp h
  exact isReserved_iff.mpr ⟨hkind, isKeyword_iff.mp (isKeyword_of_typeWord hword)⟩

/-! ## Words in any capitals -/

/-- Only a letter has a letter as its capital. -/
theorem isAlpha_of_toUpper {c : Char} (h : c.toUpper.isAlpha = true) : c.isAlpha = true := by
  unfold Char.toUpper at h
  split at h
  · next hlower =>
    rw [isAlpha_iff_toNat]
    exact .inr hlower
  · exact h

/-- A text whose capitals are a keyword is a word. -/
theorem isWord_of_isKeyword {word : String} (h : isKeyword word = true) : isWord word = true := by
  -- every keyword is made of letters
  have hletters : ∀ k ∈ keywords, k.toList ≠ [] ∧ k.toList.all Char.isAlpha = true := by decide
  obtain ⟨hne, hall⟩ := hletters _ (List.contains_iff_mem.mp h)
  rw [capitals, String.toList_ofList] at hne hall
  -- a character is a letter if its capital is one
  have halpha : ∀ c ∈ word.toList, c.isAlpha = true := fun c hc =>
    isAlpha_of_toUpper (List.all_eq_true.mp hall _ (List.mem_map_of_mem hc))
  unfold isWord
  cases hword : word.toList with
  | nil =>
    rw [hword] at hne
    exact absurd rfl hne
  | cons c t =>
    rw [hword] at halpha
    obtain ⟨hc, ht⟩ := List.forall_mem_cons.mp halpha
    rw [Bool.and_eq_true, List.all_eq_true]
    -- a letter may begin a word and go on with it
    refine ⟨by simp [Lexeme.isWordStart, hc], fun d hd => ?_⟩
    simp [Lexeme.isWordChar, Char.isAlphanum, ht d hd]

section

variable {scope : Scope} {aliases : List String} {depth : Nat}

/-- Every keyword is an expression by itself, whatever may be referred to. -/
theorem validate_keyword {word : String} (h : isKeyword word = true) :
    validate scope aliases word = .ok () := by
  rw [validate_eq_ok_iff_words, (reads_keyword word (isWord_of_isKeyword h)).words_eq]
  exact ⟨by simp, .keyword rfl h .done⟩

/-! ## A keyword in its place -/

/-- A keyword that is not the second name of a reference may be exchanged for any other: the check
looks at nothing in front of it or behind. -/
theorem Accepts.exchange_keyword {before after : List Token} {t w : Token}
    (h : Accepts scope aliases depth (before ++ t :: after)) (ht : isReserved t = true)
    (hw : isReserved w = true) (hdot : ∀ d ∈ before.getLast?, d.kind ≠ .dot) :
    Accepts scope aliases depth (before ++ w :: after) := by
  obtain ⟨hcloses, hsplits⟩ := accepts_iff.mp h
  have hkind : w.kind = t.kind := by
    simp only [isReserved, Bool.and_eq_true, beq_iff_eq] at ht hw
    rw [ht.1, hw.1]
  refine accepts_iff.mpr ⟨?_, hsplits.exchange_keyword ht hw hdot⟩
  simpa only [List.map_append, List.map_cons, hkind] using hcloses

/-- A keyword in an expression is the second name of a reference, or has no dot beside it. -/
theorem Splits.keyword_cases {before after : List Token} {t : Token}
    (h : Splits scope aliases (before ++ t :: after)) (ht : isReserved t = true) :
    (∃ earlier a d, before = earlier ++ [a, d] ∧ a.isName = true ∧ d.kind = .dot ∧
        Refers scope aliases (a.content ++ "." ++ t.content)) ∨
      ((∀ d ∈ before.getLast?, d.kind ≠ .dot) ∧ nextIs .dot after = false) := by
  by_cases hbefore : ∀ d ∈ before.getLast?, d.kind ≠ .dot
  · refine .inr ⟨hbefore, ?_⟩
    rw [← Bool.not_eq_true]
    intro hafter
    cases after with
    | nil => cases hafter
    | cons d after =>
      -- a dot behind the keyword would have it as its first name
      rw [nextIs_cons, beq_iff_eq] at hafter
      rw [List.append_cons] at h
      obtain ⟨earlier, a, c, later, hlast, -, -, hk, -⟩ := h.dot_cases hafter
      obtain ⟨-, heq⟩ := List.append_inj' hlast rfl
      rw [← List.singleton_inj.mp heq, ht] at hk
      cases hk
  · -- with a dot in front it is the last name of a reference
    simp only [not_forall, not_not] at hbefore
    obtain ⟨d, hd, hdot⟩ := hbefore
    obtain ⟨front, rfl⟩ := List.getLast?_eq_some_iff.mp hd
    rw [← List.append_cons] at h
    obtain ⟨earlier, a, c, later, rfl, hnext, hname, -, href⟩ := h.dot_cases hdot
    obtain ⟨rfl, -⟩ := List.cons.inj hnext
    exact .inl ⟨earlier, a, d, by simp, hname, hdot, href⟩

/-- The name of a type by itself is covered only by its own name. -/
theorem known_of_typeWordsCovered {word : String} (hword : capitals word ∈ typeWords)
    (h : TypeWordsCovered scope aliases (Token.scan word)) :
    scope.contains word = true ∨ word ∈ aliases := by
  have hkeyword := isWord_of_isKeyword (isKeyword_of_typeWord hword)
  obtain ⟨t, hscan, ht⟩ := List.map_eq_singleton_iff.mp (reads_keyword word hkeyword).words_eq
  have hkind : t.kind = .identifier := congrArg Word.kind ht
  have hcontent : t.content = word := congrArg Word.content ht
  have htype : isTypeWord t = true := isTypeWord_iff.mpr ⟨hkind, hcontent ▸ hword⟩
  -- nothing stands around it, so it is neither a type nor a part of a reference
  cases h [] t [] hscan htype with
  | type hbefore | column hbefore => simp at hbefore
  | bare _ _ hknown => rwa [hcontent] at hknown
  | qualifier hafter => cases hafter

/-- If the names of types are known, each is covered wherever it stands. -/
theorem typeWordsCovered_of_known
    (hknown : ∀ word, capitals word ∈ typeWords → scope.contains word = true ∨ word ∈ aliases)
    {expression : String} (h : validate scope aliases expression = .ok ()) :
    TypeWordsCovered scope aliases (Token.scan expression) := by
  intro before t after hscan ht
  have hsplits := (validate_eq_ok_iff_isExpression.mp h).splits
  rw [hscan] at hsplits
  rcases hsplits.keyword_cases (isReserved_of_isTypeWord ht) with
    ⟨earlier, a, d, hbefore, hname, hdot, href⟩ | ⟨hbefore, hafter⟩
  · exact .column hbefore hname hdot href.known
  · exact .bare hbefore hafter (hknown _ (isTypeWord_iff.mp ht).2)

/-- Where names of types stand in an accepted expression.  One is the second name of a reference,
which was looked up; or it has no dot beside it, and then the check would pass any keyword in its
place.  So in all accepted expressions each is covered exactly if every spelling of every one of
them is a legal column or an alias by itself. -/
theorem typeWords_covered {expression : String} (h : validate scope aliases expression = .ok ()) :
    (∀ before t after, Token.scan expression = before ++ t :: after → isTypeWord t = true →
      (∃ earlier a d, before = earlier ++ [a, d] ∧ a.isName = true ∧ d.kind = .dot ∧
        Refers scope aliases (a.content ++ "." ++ t.content)) ∨
      ((∀ d ∈ before.getLast?, d.kind ≠ .dot) ∧ nextIs .dot after = false ∧
        ∀ w, isReserved w = true → checkTokens scope aliases 0 (before ++ w :: after) = .ok ())) ∧
      ((∀ other, validate scope aliases other = .ok () →
          TypeWordsCovered scope aliases (Token.scan other)) ↔
        ∀ word, capitals word ∈ typeWords → scope.contains word = true ∨ word ∈ aliases) := by
  constructor
  · -- the role of each such word
    intro before t after hscan ht
    have haccepts := (validate_eq_ok_iff.mp h).2
    rw [hscan] at haccepts
    have hreserved := isReserved_of_isTypeWord ht
    refine ((accepts_iff.mp haccepts).2.keyword_cases hreserved).imp_right ?_
    rintro ⟨hbefore, hafter⟩
    refine ⟨hbefore, hafter, fun w hw => ?_⟩
    exact checkTokens_eq_ok_iff.mpr (haccepts.exchange_keyword hreserved hw hbefore)
  · -- the name of a type is accepted by itself, so it has to be known
    exact ⟨fun hcovered word hword => known_of_typeWordsCovered hword
        (hcovered word (validate_keyword (isKeyword_of_typeWord hword))),
      fun hknown other hother => typeWordsCovered_of_known hknown hother⟩

end

/-- The name of a type alone, which a database reads as a column. -/
def typeWordSample : String := "text"

/-- The sample passes though its word names nothing. -/
theorem typeWordSample_uncovered :
    validate (Scope.ofNames ["id"]) [] typeWordSample = .ok () ∧
      ¬TypeWordsCovered (Scope.ofNames ["id"]) [] (Token.scan typeWordSample) ∧
      ¬∀ other, validate (Scope.ofNames ["id"]) [] other = .ok () →
        TypeWordsCovered (Scope.ofNames ["id"]) [] (Token.scan other) := by
  have hok : validate (Scope.ofNames ["id"]) [] typeWordSample = .ok () :=
    validate_keyword (by decide)
  have hunknown : ¬((Scope.ofNames ["id"]).contains typeWordSample = true ∨
      typeWordSample ∈ ([] : List String)) := by decide
  -- it is a single token
  have hscan : Token.scan typeWordSample = [⟨.identifier, "text", 0⟩] := by decide +kernel
  refine ⟨hok, ?_, fun hall => ?_⟩
  · intro hcovered
    -- nothing stands around it, so it is neither a type nor a qualified name
    cases hcovered [] _ [] hscan (by decide) with
    | type hbefore | column hbefore => simp at hbefore
    | bare _ _ hknown => exact hunknown hknown
    | qualifier hafter => cases hafter
  · exact hunknown ((typeWords_covered hok).2.mp hall typeWordSample (by decide))

end DashQuery.Expression
