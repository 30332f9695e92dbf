import DashQuery.Proofs.Statement.Binding
import Mathlib.Algebra.GroupWithZero.Nat

/-!
# The shape of a statement

The keywords that open a clause give a statement its shape.  The compiler writes
each of them a known number of times.  A validated expression is written as it is,
and none of these words is a keyword or a function of the expression language.
But a word passes as well if it is an alias or a column, and aliases are chosen by
the client: an expression keeps the shape exactly if it holds none of the words,
and it can hold one only under the cover of an alias or a column of that name.

## Key results

- `SelectStatement.shapeOf_words`: the shape of a statement, clause by clause
- `Query.CompilesTo.expression_shape_covered`: a keyword in an expression is a name that passed
- `Query.validated_shape`: when a statement has the shape that the compiler gives it
-/

namespace DashQuery

/-- The words that give a statement its shape; the compiler never writes `UNION`. -/
def shapeKeywords : List String :=
  ["SELECT", "FROM", "JOIN", "WHERE", "UNION", "GROUP", "ORDER", "LIMIT"]

/-- How often a keyword occurs unquoted in a text, in capitals or not. -/
def keywordCount (keyword text : String) : Nat :=
  (Token.scan text).countP fun t =>
    t.kind == .identifier && Expression.capitals t.content == keyword

/-- The shape keyword that a word is, in capitals. -/
def Word.shape? (w : Word) : Option String :=
  if w.kind = .identifier ∧ Expression.capitals w.text ∈ shapeKeywords then
    some (Expression.capitals w.text)
  else none

/-- The shape keywords among some words, in order. -/
def shapeOf (ws : List Word) : List String := ws.filterMap Word.shape?

/-- The shape of words is that of their parts. -/
theorem shapeOf_append (u v : List Word) : shapeOf (u ++ v) = shapeOf u ++ shapeOf v :=
  List.filterMap_append

/-- A keyword of a clause is a part of the shape. -/
theorem shapeOf_keyword_cons {text : String} (ws : List Word)
    (h : text ∈ shapeKeywords := by decide)
    (hcapitals : Expression.capitals text = text := by decide) :
    shapeOf (Word.keyword text :: ws) = text :: shapeOf ws := by
  refine List.filterMap_cons_some ?_
  show (if TokenKind.identifier = .identifier ∧ Expression.capitals text ∈ shapeKeywords then
    some (Expression.capitals text) else none) = some text
  rw [hcapitals, if_pos ⟨rfl, h⟩]

/-- No inner keyword gives a statement its shape. -/
theorem Word.IsListed.shape?_eq_none {quotable : String → Prop} {w : Word}
    (h : w.IsListed innerKeywords quotable) : w.shape? = none := by
  -- the two vocabularies have no word in common
  have hinner : ∀ text ∈ innerKeywords, Expression.capitals text ∉ shapeKeywords := by decide
  refine if_neg ?_
  rintro ⟨hkind, hshape⟩
  simp only [Word.IsListed, hkind] at h
  exact hinner _ h hshape

/-- Words that open no clause have no shape. -/
theorem shapeOf_eq_nil {ws : List Word} (h : ∀ w ∈ ws, w.IsListed innerKeywords fun _ => True) :
    shapeOf ws = [] := List.filterMap_eq_nil_iff.mpr fun w hw => (h w hw).shape?_eq_none

/-- The keywords in a text are counted in its shape. -/
theorem keywordCount_eq {keyword : String} (h : keyword ∈ shapeKeywords) (text : String) :
    keywordCount keyword text = (shapeOf (words text)).count keyword := by
  rw [shapeOf, List.count_filterMap, words, List.countP_map, keywordCount]
  refine List.countP_congr fun t _ => ?_
  -- a quoted name is no keyword, whatever it says
  by_cases hk : t.kind = .identifier
  · have hcontent : t.content = t.text := by simp [Token.content, hk]
    simp only [Function.comp_def, Word.shape?, Token.word, hk, hcontent, true_and, BEq.rfl,
      Bool.true_and, beq_iff_eq]
    constructor
    · intro heq
      rw [heq, if_pos h]
    · intro hsome
      obtain ⟨-, heq⟩ := Option.ite_none_right_eq_some.mp hsome
      exact Option.some.inj heq
  · simp [Word.shape?, Token.word, hk]

/-! ## The shape, clause by clause -/

/-- An entry of the select list has the shape of its expression, if it holds one. -/
theorem SelectItem.shapeOf_words (item : SelectItem) :
    shapeOf item.words = item.expression?.toList.flatMap fun text =>
      shapeOf (DashQuery.words text) := by
  have halias : shapeOf (aliasWords item.aliasName?) = [] :=
    shapeOf_eq_nil (aliasWords_listed fun _ _ => trivial)
  cases item with
  | expression text aliasName => simp [words, shapeOf_append, bodyWords, expression?, halias]
  -- only an expression can hold keywords of clauses
  | column ref aliasName | aggregate function ref aliasName =>
    refine shapeOf_eq_nil fun w hw => ?_
    rcases SelectItem.words_listed (fun _ _ => trivial) w hw with hlisted | ⟨text, htext, -⟩
    · exact hlisted
    · cases htext

/-- A join has the shape of its keyword. -/
theorem JoinClause.shapeOf_words (j : JoinClause) : shapeOf j.words = ["JOIN"] := by
  have htail : shapeOf j.tailWords = [] :=
    shapeOf_eq_nil (JoinClause.tailWords_listed fun _ _ => trivial)
  have hkind : Word.shape? (Word.keyword j.kind.name) = none := by cases j.kind <;> decide
  rw [words, shapeOf, List.filterMap_cons_none hkind]
  rw [← shapeOf, shapeOf_keyword_cons, htail]

namespace SelectStatement

variable {s : SelectStatement}

/-- The select list has the shape of the expressions in it. -/
theorem shapeOf_itemsWords (s : SelectStatement) :
    shapeOf s.itemsWords = (s.items.filterMap SelectItem.expression?).flatMap fun text =>
      shapeOf (DashQuery.words text) := by
  unfold itemsWords
  split
  · next h =>
    rw [List.isEmpty_iff.mp h]
    decide
  · rw [shapeOf, filterMap_intercalate (by decide), List.flatMap_map]
    -- entry by entry, for commas add nothing either
    generalize s.items = items
    induction items with
    | nil => rfl
    | cons item items ih =>
      rw [List.flatMap_cons, ih, ← shapeOf, SelectItem.shapeOf_words]
      -- an entry without an expression adds nothing to the shape
      cases he : item.expression? with
      | none =>
        rw [List.filterMap_cons_none he]
        rfl
      | some text =>
        rw [List.filterMap_cons_some he, List.flatMap_cons]
        simp

/-- A clause of a list has the shape of its keywords, if it is there. -/
theorem shapeOf_listWords {keywords : List Word} {parts : List (List Word)}
    (h : ∀ ws ∈ parts, ∀ w ∈ ws, w.IsListed innerKeywords fun _ => True) :
    shapeOf (listWords keywords parts).flatten =
      if parts.isEmpty then [] else shapeOf keywords := by
  unfold listWords
  split
  · rfl
  · rw [List.flatten_singleton, shapeOf_append, shapeOf_eq_nil (commas_listed h), List.append_nil]

/-- The keywords with which the compiler opens the clauses behind the select list. -/
def ownShape (s : SelectStatement) : List String :=
  "FROM" :: List.replicate s.joins.length "JOIN" ++
    (if s.predicate.isEmpty then [] else ["WHERE"]) ++
    (if s.groupBy.isEmpty then [] else ["GROUP"]) ++
    (if s.orderBy.isEmpty then [] else ["ORDER"]) ++ ["LIMIT"]

/-- The clauses up to the tables: the select list with its expressions, the source, and the joins.
-/
theorem shapeOf_leadingWords (s : SelectStatement) : shapeOf s.leadingWords.flatten =
    "SELECT" :: (s.items.filterMap SelectItem.expression?).flatMap (fun text =>
      shapeOf (DashQuery.words text)) ++ "FROM" :: List.replicate s.joins.length "JOIN" := by
  -- one keyword for each join
  have hjoins : shapeOf (s.joins.map JoinClause.words).flatten =
      List.replicate s.joins.length "JOIN" := by
    generalize s.joins = joins
    induction joins with
    | nil => rfl
    | cons j joins ih =>
      rw [List.map_cons, List.flatten_cons, shapeOf_append, JoinClause.shapeOf_words, ih]
      rfl
  rw [leadingWords, List.flatten_append, shapeOf_append, hjoins, List.flatten_cons, shapeOf_append,
    List.flatten_singleton, shapeOf_keyword_cons, shapeOf_itemsWords, shapeOf_keyword_cons]
  simp [shapeOf, Word.shape?, Word.quoted]

/-- The clauses behind the filter: grouping and sorting if they are there, and the limit. -/
theorem shapeOf_trailingWords (s : SelectStatement) : shapeOf s.trailingWords.flatten =
    (if s.groupBy.isEmpty then [] else ["GROUP"]) ++
      (if s.orderBy.isEmpty then [] else ["ORDER"]) ++ ["LIMIT"] := by
  -- a list that is there has one keyword of a clause, and none in its parts
  have hgroup : shapeOf (listWords [Word.keyword "GROUP", Word.keyword "BY"]
      (s.groupBy.map ColumnRef.words)).flatten = if s.groupBy.isEmpty then [] else ["GROUP"] := by
    rw [shapeOf_listWords, List.isEmpty_map]
    · rfl
    · intro ws hws
      obtain ⟨ref, -, rfl⟩ := List.mem_map.mp hws
      exact ColumnRef.words_listed fun _ _ => trivial
  have horder : shapeOf (listWords [Word.keyword "ORDER", Word.keyword "BY"]
      (s.orderBy.map SortTerm.words)).flatten = if s.orderBy.isEmpty then [] else ["ORDER"] := by
    rw [shapeOf_listWords, List.isEmpty_map]
    · rfl
    · intro ws hws
      obtain ⟨t, -, rfl⟩ := List.mem_map.mp hws
      exact SortTerm.words_listed fun _ _ => trivial
  have hnumber : ∀ n : Nat, ∀ w ∈ [Word.number n], w.IsListed innerKeywords fun _ => True :=
    fun n => List.forall_mem_singleton.mpr (Word.isListed_number n)
  have hlimit :
      shapeOf [[Word.keyword "LIMIT", Word.number s.limit.toNat]].flatten = ["LIMIT"] := by
    rw [List.flatten_singleton, shapeOf_keyword_cons, shapeOf_eq_nil (hnumber _)]
  -- the offset is written with an inner keyword
  have hoffset : shapeOf (s.offset.toList.map fun n =>
      [Word.keyword "OFFSET", Word.number n.toNat]).flatten = [] := by
    cases s.offset with
    | none => rfl
    | some n =>
      exact shapeOf_eq_nil
        (List.forall_mem_cons.mpr ⟨Word.isListed_keyword.mpr (by decide), hnumber n.toNat⟩)
  rw [trailingWords, List.flatten_append, List.flatten_append, List.flatten_append, shapeOf_append,
    shapeOf_append, shapeOf_append, hgroup, horder, hlimit, hoffset, List.append_nil]

/-- The shape of a statement: that of its expressions among the keywords of its clauses. -/
theorem shapeOf_words (hpredicate : shapeOf (DashQuery.words s.predicate.text) = []) :
    shapeOf s.words = "SELECT" :: (s.items.filterMap SelectItem.expression?).flatMap (fun text =>
      shapeOf (DashQuery.words text)) ++ s.ownShape := by
  -- a predicate that is there has its keyword and no shape of its own
  have hwhere : shapeOf s.whereWords.flatten = if s.predicate.isEmpty then [] else ["WHERE"] := by
    unfold whereWords
    split
    · rfl
    · rw [List.flatten_singleton, shapeOf_keyword_cons, hpredicate]
  rw [words, List.flatten_append, List.flatten_append, shapeOf_append, shapeOf_append, hwhere,
    shapeOf_leadingWords, shapeOf_trailingWords, ownShape]
  simp only [List.cons_append, List.append_assoc]

end SelectStatement

namespace Query

variable {settings : Settings} {catalog : Catalog} {scope : Scope} {q : Query}
  {s : SelectStatement}

/-- How often a query's statement has a keyword on account of its clauses: once for the select list,
the source and the limit, once for each join, and once for each other clause that is there. -/
def clauseCount (q : Query) (s : SelectStatement) (keyword : String) : Nat :=
  if keyword ∈ ["SELECT", "FROM", "LIMIT"] then 1
  else if keyword = "JOIN" then q.joins.length
  else if keyword = "WHERE" then if s.predicate.text = "" then 0 else 1
  else if keyword = "GROUP" then if q.groupBy = [] then 0 else 1
  else if keyword = "ORDER" then if q.orderBy = [] then 0 else 1
  else 0

/-- The keywords of the clauses are as many as the query asks for. -/
theorem CompilesTo.clauseCount_eq (h : q.CompilesTo settings catalog scope s) {keyword : String}
    (hk : keyword ∈ shapeKeywords) :
    ("SELECT" :: s.ownShape).count keyword = q.clauseCount s keyword := by
  have hjoins : s.joins.length = q.joins.length :=
    (joinClauses_eq_ok_iff.mp h.joins).length_eq.symm
  have hempty : ∀ {α β : Type} {xs : List α} {ys : List β}, xs.length = ys.length →
      (ys.isEmpty = true ↔ xs = []) := by
    intro α β xs ys hlen
    rw [List.isEmpty_iff, ← List.length_eq_zero_iff, ← List.length_eq_zero_iff, hlen]
  -- a clause is left out exactly where the query asks for nothing
  have hgroup : s.groupBy.isEmpty = true ↔ q.groupBy = [] :=
    hempty (references_eq_ok_iff.mp h.groupBy).length_eq
  have horder : s.orderBy.isEmpty = true ↔ q.orderBy = [] :=
    hempty (sortTerms_eq_ok_iff.mp h.orderBy).length_eq
  have hwhere : s.predicate.isEmpty = true ↔ s.predicate.text = "" := BoundText.isEmpty_iff
  -- a clause that may be left out counts once or not at all
  have hif : ∀ {p : Prop} [Decidable p] (word : String),
      (if p then [] else [word]).count keyword = if p then 0 else [word].count keyword := by
    intro p _ word
    split <;> rfl
  simp only [SelectStatement.ownShape, List.cons_append, List.count_cons, List.count_append,
    List.count_replicate, hif, hwhere, hgroup, horder, hjoins]
  simp only [shapeKeywords, List.mem_cons, List.not_mem_nil, or_false] at hk
  rcases hk with rfl | rfl | rfl | rfl | rfl | rfl | rfl | rfl <;> simp [clauseCount]

/-- A predicate has no shape of its own. -/
theorem CompilesTo.shapeOf_predicate (h : q.CompilesTo settings catalog scope s) :
    shapeOf (words s.predicate.text) = [] := by
  rw [(shows_predicate h.predicate).reads.words_eq]
  refine List.filterMap_eq_nil_iff.mpr fun w hw => ?_
  obtain ⟨slot, hslot, rfl⟩ := List.mem_map.mp hw
  have hlisted := filterSlots_listed h.scope_eq h.predicate slot hslot
  -- a value is no word, and the fixed words are inner ones
  cases slot with
  | value p =>
    refine if_neg fun hkind => ?_
    cases hkind.1
  | fixed w =>
    have hword : w.IsListed innerKeywords fun name =>
        Name.isValid name = true ∧ q.MayQuote catalog scope name := hlisted
    exact hword.shape?_eq_none

/-- A shape keyword in a validated expression is an alias or a legal column, or a side of one. -/
theorem CompilesTo.expression_shape_covered (h : q.CompilesTo settings catalog scope s)
    (hp : settings.expressionPolicy = .validated) {c : ExpressionColumn}
    (hc : c ∈ q.expressionColumns) {t : Token} (ht : t ∈ Token.scan c.expression)
    (hk : t.kind = .identifier) (hshape : Expression.capitals t.content ∈ shapeKeywords) :
    ∃ name, Expression.IsPart t.content name ∧
      (name ∈ q.selectAliases ∨ scope.contains name = true) := by
  -- the expression language has none of these words, so only a name can be one
  have hkeywords : ∀ word ∈ Expression.keywords, word ∉ shapeKeywords := by decide
  have hfunctions : ∀ word ∈ Expression.functions, word ∉ shapeKeywords := by decide
  obtain ⟨known, hknown, haccepts⟩ := h.expression_accepted hp c hc
  rcases haccepts.word_cases t ht hk with hword | hword | ⟨name, href, hpart⟩
  · exact absurd hshape (hkeywords _ (List.contains_iff_mem.mp hword))
  · exact absurd hshape (hfunctions _ (List.contains_iff_mem.mp hword))
  · refine ⟨name, hpart, ?_⟩
    obtain ⟨-, halias | ⟨hlegal, -⟩⟩ := Expression.checkReference_eq_ok_iff.mp href
    · exact .inl (hknown halias)
    · exact .inr hlegal

/-- A keyword stands in the statement as often as the compiler writes it and the expressions do. -/
theorem CompilesTo.keywordCount_text (h : q.CompilesTo settings catalog scope s)
    (hp : settings.expressionPolicy = .validated) {keyword : String}
    (hk : keyword ∈ shapeKeywords) : keywordCount keyword s.text = q.clauseCount s keyword +
      (q.expressionColumns.map fun c => keywordCount keyword c.expression).sum := by
  have hexpressions : ((q.expressionColumns.map ExpressionColumn.expression).flatMap fun text =>
      shapeOf (words text)).count keyword =
        (q.expressionColumns.map fun c => keywordCount keyword c.expression).sum := by
    rw [List.count_flatMap, List.map_map]
    congr 1
    refine List.map_congr_left fun c _ => ?_
    rw [keywordCount_eq hk]
    rfl
  -- the shape of the text is the compiler's own with those of the expressions behind its first word
  rw [keywordCount_eq hk, (h.legible (.inl hp)).reads_text.words_eq,
    SelectStatement.shapeOf_words h.shapeOf_predicate, h.expressions_eq, ← hexpressions,
    ← h.clauseCount_eq hk, List.cons_append, List.count_cons, List.count_cons, List.count_append]
  omega

/-- A validated statement has each shape keyword as often as its clauses ask for, and besides as
often as its expressions hold it.  So it has its proper shape exactly if no expression holds one,
and an expression can hold one only as an alias or a legal column, or a side of one. -/
theorem validated_shape (h : q.compile settings catalog = .ok s)
    (hp : settings.expressionPolicy = .validated) :
    (∀ keyword ∈ shapeKeywords, keywordCount keyword s.text = q.clauseCount s keyword +
        (q.expressionColumns.map fun c => keywordCount keyword c.expression).sum) ∧
      ((∀ keyword ∈ shapeKeywords, keywordCount keyword s.text = q.clauseCount s keyword) ↔
        ∀ c ∈ q.expressionColumns, ∀ keyword ∈ shapeKeywords,
          keywordCount keyword c.expression = 0) ∧
      ∃ scope, q.scope catalog = .ok scope ∧
        ∀ c ∈ q.expressionColumns, ∀ t ∈ Token.scan c.expression, t.kind = .identifier →
          Expression.capitals t.content ∈ shapeKeywords → ∃ name,
            Expression.IsPart t.content name ∧
              (name ∈ q.selectAliases ∨ scope.contains name = true) := by
  obtain ⟨scope, hc⟩ := compile_eq_ok_iff.mp h
  have hcount : ∀ keyword ∈ shapeKeywords, keywordCount keyword s.text =
      q.clauseCount s keyword +
        (q.expressionColumns.map fun c => keywordCount keyword c.expression).sum :=
    fun _ hk => hc.keywordCount_text hp hk
  refine ⟨hcount, ?_, scope, hc.scope_eq, fun c hmem t ht hk hshape =>
    hc.expression_shape_covered hp hmem ht hk hshape⟩
  constructor
  · -- both counts start from the compiler's own, so they agree only if the expressions add nothing
    intro hproper c hmem keyword hk
    have hsum := hcount keyword hk
    rw [hproper keyword hk] at hsum
    have hzero : (q.expressionColumns.map fun c => keywordCount keyword c.expression).sum = 0 := by
      omega
    exact List.sum_eq_zero_iff_forall_eq_nat.mp hzero _ (List.mem_map.mpr ⟨c, hmem, rfl⟩)
  · -- and expressions without these words add nothing
    intro hnone keyword hk
    have hzero : (q.expressionColumns.map fun c => keywordCount keyword c.expression).sum = 0 := by
      refine List.sum_eq_zero_iff_forall_eq_nat.mpr fun n hn => ?_
      obtain ⟨c, hmem, rfl⟩ := List.mem_map.mp hn
      exact hnone c hmem keyword hk
    rw [hcount keyword hk, hzero, Nat.add_zero]

/-- Three aliases under whose cover an expression reads a table that the query does not declare. -/
def coveredSample : Query where
  sourceTable := "orders"
  columns := [⟨"id", some "SELECT", none⟩, ⟨"id", some "FROM", none⟩, ⟨"id", some "users", none⟩]
  expressionColumns := [⟨"(SELECT city FROM users)", "leak"⟩]
  joins := []
  filters := none
  groupBy := []
  orderBy := []
  limit := none
  offset := none

/-- An expression that is checked and passes can hold keywords of clauses, if they are aliases. -/
theorem coveredSample_shape : endUserSettings.expressionPolicy = .validated ∧
    ∃ s, coveredSample.compile endUserSettings sampleCatalog = .ok s ∧
      keywordCount "SELECT" s.text = 2 ∧ keywordCount "FROM" s.text = 2 ∧
      coveredSample.clauseCount s "SELECT" = 1 ∧ coveredSample.clauseCount s "FROM" = 1 := by
  have hok : (coveredSample.compile endUserSettings sampleCatalog).isOk = true := by
    decide +kernel
  -- one keyword of each kind in the expression
  have hselect : keywordCount "SELECT" "(SELECT city FROM users)" = 1 := by decide +kernel
  have hfrom : keywordCount "FROM" "(SELECT city FROM users)" = 1 := by decide +kernel
  refine ⟨rfl, ?_⟩
  cases h : coveredSample.compile endUserSettings sampleCatalog with
  | error e =>
    rw [h] at hok
    cases hok
  | ok s =>
    -- the second keyword of each kind is in the expression
    obtain ⟨hcount, -, -⟩ := validated_shape h rfl
    refine ⟨s, rfl, ?_, ?_, rfl, rfl⟩
    · rw [hcount "SELECT" (by decide)]
      simp [coveredSample, clauseCount, hselect]
    · rw [hcount "FROM" (by decide)]
      simp [coveredSample, clauseCount, hfrom]

end Query

end DashQuery
