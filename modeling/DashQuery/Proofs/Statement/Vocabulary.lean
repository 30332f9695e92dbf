import DashQuery.Proofs.Statement.Names

/-!
# The vocabulary of statements

Apart from its computed columns a statement is written with a fixed vocabulary:
keywords, comparison operators, punctuation, numbers, placeholders, and quoted
names.  `Word.IsListed` says this of a single word.  The keywords that open a
clause are kept apart from those inside of clauses, for the former give the
statement its shape.

## Key results

- `Query.filterSlots_listed`: predicates are written with the inner keywords
- `SelectStatement.leadingWords_listed`: the words in front of the predicate, but for expressions
- `SelectStatement.trailingWords_listed`: the words behind the predicate
- `Query.compile_listed`: without computed columns nothing else is written
-/

namespace DashQuery

/-- The keywords that open a clause. -/
def clauseKeywords : List String :=
  ["SELECT", "FROM", "JOIN", "WHERE", "GROUP", "ORDER", "LIMIT"]

/-- The keywords inside of clauses: aliases, joins, combinators, operators, functions, sorting. -/
def innerKeywords : List String :=
  ["AS", "LEFT", "INNER", "RIGHT", "ON", "AND", "OR", "LIKE", "NOT", "IN", "IS", "NULL", "BETWEEN",
    "COUNT", "SUM", "AVG", "MIN", "MAX", "BY", "ASC", "DESC", "OFFSET"]

/-- All keywords that the compiler writes by itself. -/
def vocabulary : List String := clauseKeywords ++ innerKeywords

/-- The comparison operators, and the star that stands for all columns. -/
def symbols : List String := ["=", "!=", ">", "<", ">=", "<=", "*"]

namespace Word

/-- A keyword of the vocabulary, a quoted name that is allowed, an operator, a number or a mark. -/
def IsListed (vocabulary : List String) (quotable : String → Prop) (w : Word) : Prop :=
  match w.kind with
  | .identifier => w.text ∈ vocabulary
  | .quotedIdentifier => quotable w.content
  | .operator => w.text ∈ symbols
  | .number => w.text ≠ "" ∧ ∀ c ∈ w.text.toList, c.isDigit = true
  | .leftParen | .rightParen | .comma | .dot => True
  | .string | .semicolon | .comment | .illegal => False

variable {vocabulary : List String} {quotable : String → Prop}

/-- A keyword is listed if it is in the vocabulary. -/
theorem isListed_keyword {text : String} :
    (keyword text).IsListed vocabulary quotable ↔ text ∈ vocabulary := Iff.rfl

/-- A quoted name is listed if it may be quoted. -/
theorem isListed_quoted {name : String} :
    (quoted name).IsListed vocabulary quotable ↔ quotable name := by
  show quotable (quoted name).content ↔ _
  rw [content_quoted]

/-- An operator is listed if it is one of the symbols. -/
theorem isListed_symbol {text : String} :
    (symbol text).IsListed vocabulary quotable ↔ text ∈ symbols := Iff.rfl

/-- A number is listed, as it is written in digits. -/
theorem isListed_number (n : Nat) : (number n).IsListed vocabulary quotable := by
  -- the library knows the digits of a number, not the characters of its text
  have htext : (toString n).toList = Nat.toDigits 10 n := by
    rw [Nat.toString_eq_ofList_toDigits, String.toList_ofList]
  show toString n ≠ "" ∧ ∀ c ∈ (toString n).toList, c.isDigit = true
  rw [ne_eq, ← String.toList_inj, htext]
  exact ⟨Nat.toDigits_ne_nil, fun c hc => Nat.isDigit_of_mem_toDigits (by decide) (by decide) hc⟩

/-- An opening parenthesis is listed. -/
theorem isListed_leftParen : leftParen.IsListed vocabulary quotable := trivial

/-- A closing parenthesis is listed. -/
theorem isListed_rightParen : rightParen.IsListed vocabulary quotable := trivial

/-- A comma is listed. -/
theorem isListed_comma : comma.IsListed vocabulary quotable := trivial

/-- A larger vocabulary lists what a smaller one does. -/
theorem IsListed.mono {larger : List String} {w : Word} (h : w.IsListed vocabulary quotable)
    (hsub : vocabulary ⊆ larger) : w.IsListed larger quotable := by
  unfold IsListed at h ⊢
  -- only keywords are looked up in the vocabulary
  cases hk : w.kind <;> simp only [hk] at h ⊢ <;> first | exact hsub h | exact h

end Word

/-- A value, or a word that is listed. -/
def Slot.IsListed (vocabulary : List String) (quotable : String → Prop) : Slot → Prop
  | fixed w => w.IsListed vocabulary quotable
  | value _ => True

/-! ## Predicates -/

section listed

variable {vocabulary : List String} {quotable : String → Prop} {scope : Scope}

/-- Listed slots stay listed in parentheses. -/
theorem enclose_listed {slots : List Slot}
    (h : ∀ slot ∈ slots, slot.IsListed vocabulary quotable) :
    ∀ slot ∈ enclose slots, slot.IsListed vocabulary quotable := by
  unfold enclose
  split
  · intro slot hslot
    cases hslot
  · intro slot hslot
    simp only [List.mem_cons, List.mem_append, List.not_mem_nil, or_false] at hslot
    rcases hslot with rfl | hslot | rfl
    · trivial
    · exact h slot hslot
    · trivial

/-- Listed slots stay listed with a listed keyword between them. -/
theorem joinSlots_listed {keyword : Word} (hkeyword : keyword.IsListed vocabulary quotable)
    {parts : List (List Slot)} (h : ∀ u ∈ parts, ∀ slot ∈ u, slot.IsListed vocabulary quotable) :
    ∀ slot ∈ joinSlots keyword parts, slot.IsListed vocabulary quotable := by
  intro slot hslot
  rcases mem_intercalate hslot with hmem | ⟨u, hu, hmem⟩
  · exact List.mem_singleton.mp hmem ▸ hkeyword
  · exact h u (List.mem_filter.mp hu).1 slot hmem

/-- A reference is written with its quoted parts, and a dot if there are two. -/
theorem ColumnRef.words_listed {ref : ColumnRef} (h : ∀ part ∈ ref.parts, quotable part) :
    ∀ w ∈ ref.words, w.IsListed vocabulary quotable := by
  cases ref with
  | bare column =>
    simp only [words, List.forall_mem_singleton, Word.isListed_quoted]
    exact h column (by simp [parts])
  | qualified qualifier column =>
    simp only [words, List.forall_mem_cons, Word.isListed_quoted]
    exact ⟨h qualifier (by simp [parts]), trivial, h column (by simp [parts]),
      List.forall_mem_nil _⟩

/-- An operator is written with symbols or with inner keywords. -/
theorem Operator.words_listed (op : Operator) :
    ∀ w ∈ op.words, w.IsListed innerKeywords quotable := by
  have hkeyword : ∀ {text : String}, text ∈ innerKeywords →
      (Word.keyword text).IsListed innerKeywords quotable := Word.isListed_keyword.mpr
  have hsymbol : ∀ {text : String}, text ∈ symbols →
      (Word.symbol text).IsListed innerKeywords quotable := Word.isListed_symbol.mpr
  cases op with
  | eq | notEq | gt | lt | gte | lte =>
    exact List.forall_mem_singleton.mpr (hsymbol (by decide))
  -- one keyword, two, or three
  | like | isIn | between => exact List.forall_mem_singleton.mpr (hkeyword (by decide))
  | notLike | notIn | isNull =>
    exact List.forall_mem_cons.mpr
      ⟨hkeyword (by decide), List.forall_mem_singleton.mpr (hkeyword (by decide))⟩
  | isNotNull =>
    exact List.forall_mem_cons.mpr ⟨hkeyword (by decide), List.forall_mem_cons.mpr
      ⟨hkeyword (by decide), List.forall_mem_singleton.mpr (hkeyword (by decide))⟩⟩

/-- The operands are values with commas, parentheses or a keyword around and between them. -/
theorem Operator.operands_listed (op : Operator) (values : List Param) :
    ∀ slot ∈ op.operands values, slot.IsListed innerKeywords quotable := by
  -- values by themselves
  have hmap : ∀ slot ∈ values.map Slot.value, slot.IsListed innerKeywords quotable := by
    intro slot hslot
    obtain ⟨p, -, rfl⟩ := List.mem_map.mp hslot
    trivial
  -- values with a word between them
  have hsep : ∀ {w : Word}, w.IsListed innerKeywords quotable → ∀ slot ∈
      [Slot.fixed w].intercalate (values.map fun p => [Slot.value p]),
      slot.IsListed innerKeywords quotable := by
    intro w hw slot hslot
    rcases mem_intercalate hslot with hmem | ⟨u, hu, hmem⟩
    · exact List.mem_singleton.mp hmem ▸ hw
    · obtain ⟨p, -, rfl⟩ := List.mem_map.mp hu
      exact List.mem_singleton.mp hmem ▸ trivial
  cases op with
  | isIn | notIn =>
    exact enclose_listed (hsep Word.isListed_comma)
  | between => exact hsep (Word.isListed_keyword.mpr (by decide))
  | isNull | isNotNull | eq | notEq | gt | lt | gte | lte | like | notLike => exact hmap

/-- A condition is written with its reference, its operator and its operands. -/
theorem Atom.slots_listed {a : Atom} (h : ∀ part ∈ a.ref.parts, quotable part) :
    ∀ slot ∈ a.slots, slot.IsListed innerKeywords quotable := by
  intro slot hslot
  rw [Atom.slots, List.mem_append] at hslot
  rcases hslot with hslot | hslot
  · obtain ⟨w, hw, rfl⟩ := List.mem_map.mp hslot
    rcases List.mem_append.mp hw with hw | hw
    · exact ColumnRef.words_listed h w hw
    · exact a.op.words_listed w hw
  · exact a.op.operands_listed a.values slot hslot

/-- Both combinators are inner keywords. -/
theorem Combinator.keyword_listed (combinator : Combinator) :
    (Word.keyword combinator.keyword).IsListed innerKeywords quotable := by
  rw [Word.isListed_keyword]
  cases combinator <;> decide

mutual

/-- A node is written with the words of its conditions, with keywords and parentheses. -/
theorem FilterNode.slots_listed : ∀ (n : FilterNode),
    (∀ c ∈ n.leaves, ∀ slot ∈ c.slots scope, slot.IsListed innerKeywords quotable) →
    ∀ slot ∈ n.slots scope, slot.IsListed innerKeywords quotable
  | .condition c, h => by
    rw [FilterNode.slots]
    exact h c (by simp [FilterNode.leaves])
  | .group combinator entries, h => by
    rw [FilterNode.slots]
    rw [FilterNode.leaves] at h
    exact enclose_listed
      (joinSlots_listed combinator.keyword_listed (FilterNode.slotsOf_listed entries h))

/-- The same for several nodes. -/
theorem FilterNode.slotsOf_listed : ∀ (ns : List FilterNode),
    (∀ c ∈ FilterNode.leavesOf ns, ∀ slot ∈ c.slots scope, slot.IsListed innerKeywords quotable) →
    ∀ u ∈ FilterNode.slotsOf scope ns, ∀ slot ∈ u, slot.IsListed innerKeywords quotable
  | [], _ => by
    rw [FilterNode.slotsOf]
    exact List.forall_mem_nil _
  | n :: ns, h => by
    rw [FilterNode.slotsOf]
    refine List.forall_mem_cons.mpr ⟨FilterNode.slots_listed n fun c hc => h c ?_,
      FilterNode.slotsOf_listed ns fun c hc => h c ?_⟩
    · rw [FilterNode.leavesOf]
      exact List.mem_append_left _ hc
    · rw [FilterNode.leavesOf]
      exact List.mem_append_right _ hc

end

/-! ## The other clauses -/

/-- An alias is written quoted behind its keyword. -/
theorem aliasWords_listed {aliasName : Option String} (h : ∀ n ∈ aliasName, quotable n) :
    ∀ w ∈ aliasWords aliasName, w.IsListed innerKeywords quotable := by
  cases aliasName with
  | none => exact List.forall_mem_nil _
  | some n =>
    exact List.forall_mem_cons.mpr ⟨Word.isListed_keyword.mpr (by decide),
      List.forall_mem_singleton.mpr (Word.isListed_quoted.mpr (h n rfl))⟩

/-- A join is written, behind its two keywords, with its table, alias and condition. -/
theorem JoinClause.tailWords_listed {j : JoinClause} (h : ∀ name ∈ j.names, quotable name) :
    ∀ w ∈ j.tailWords, w.IsListed innerKeywords quotable := by
  -- part by part: the two sides, the table with its alias, and the words between
  have hleft : ∀ w ∈ j.left.words, w.IsListed innerKeywords quotable :=
    ColumnRef.words_listed fun part hpart => h part (by simp [names, hpart])
  have hright : ∀ w ∈ j.right.words, w.IsListed innerKeywords quotable :=
    ColumnRef.words_listed fun part hpart => h part (by simp [names, hpart])
  have htarget : ∀ w ∈ j.targetWords, w.IsListed innerKeywords quotable :=
    List.forall_mem_cons.mpr ⟨Word.isListed_quoted.mpr (h _ (by simp [names])),
      aliasWords_listed fun n hn => h n (by simp [names, Option.mem_def.mp hn])⟩
  have hon : ∀ w ∈ [Word.keyword "ON"], w.IsListed innerKeywords quotable :=
    List.forall_mem_singleton.mpr (Word.isListed_keyword.mpr (by decide))
  have hequal : ∀ w ∈ [Word.symbol "="], w.IsListed innerKeywords quotable :=
    List.forall_mem_singleton.mpr (Word.isListed_symbol.mpr (by decide))
  simp only [tailWords, List.forall_mem_append]
  exact ⟨⟨⟨⟨htarget, hon⟩, hleft⟩, hequal⟩, hright⟩

/-- A sort term is written with its reference and its direction. -/
theorem SortTerm.words_listed {t : SortTerm} (h : ∀ part ∈ t.ref.parts, quotable part) :
    ∀ w ∈ t.words, w.IsListed innerKeywords quotable := by
  refine List.forall_mem_append.mpr ⟨ColumnRef.words_listed h, List.forall_mem_singleton.mpr ?_⟩
  rw [Word.isListed_keyword]
  cases t.direction <;> decide

/-- An entry of the select list is written with listed words and those of its expression. -/
theorem SelectItem.words_listed {item : SelectItem} (h : ∀ name ∈ item.names, quotable name) :
    ∀ w ∈ item.words, w.IsListed innerKeywords quotable ∨
      ∃ text ∈ item.expression?, w ∈ DashQuery.words text := by
  intro w hw
  rcases List.mem_append.mp hw with hw | hw
  · cases item with
    | column ref aliasName =>
      exact .inl (ColumnRef.words_listed (fun part hpart => h part (by simp [names, hpart])) w hw)
    | aggregate function ref aliasName =>
      -- the function's name, and the reference in parentheses
      have href : ∀ w ∈ ref.words, w.IsListed innerKeywords quotable :=
        ColumnRef.words_listed fun part hpart => h part (by simp [names, hpart])
      have hname : (Word.keyword function.name).IsListed innerKeywords quotable := by
        rw [Word.isListed_keyword]
        cases function <;> decide
      have hinside : ∀ w ∈ ref.words ++ [Word.rightParen], w.IsListed innerKeywords quotable :=
        List.forall_mem_append.mpr ⟨href, List.forall_mem_singleton.mpr Word.isListed_rightParen⟩
      have hall : ∀ w ∈ [Word.keyword function.name] ++
          Word.leftParen :: (ref.words ++ [Word.rightParen]), w.IsListed innerKeywords quotable :=
        List.forall_mem_cons.mpr ⟨hname, List.forall_mem_cons.mpr
          ⟨Word.isListed_leftParen, hinside⟩⟩
      exact .inl (hall w hw)
    | expression text aliasName => exact .inr ⟨text, rfl, hw⟩
  -- the alias behind it, if there is one
  · refine .inl (aliasWords_listed (fun n hn => h n ?_) w hw)
    cases item <;> simp_all [names, aliasName?]

end listed

/-! ## Whole statements -/

namespace SelectStatement

variable {quotable : String → Prop} {s : SelectStatement}

/-- Parts with commas between them. -/
theorem commas_listed {parts : List (List Word)}
    (h : ∀ ws ∈ parts, ∀ w ∈ ws, w.IsListed innerKeywords quotable) :
    ∀ w ∈ [Word.comma].intercalate parts, w.IsListed innerKeywords quotable := by
  intro w hw
  rcases mem_intercalate hw with hmem | ⟨ws, hws, hmem⟩
  · rw [List.mem_singleton.mp hmem]
    trivial
  · exact h ws hws w hmem

/-- The inner keywords are a part of the vocabulary. -/
theorem mono_inner {w : Word} (h : w.IsListed innerKeywords quotable) :
    w.IsListed vocabulary quotable := h.mono (List.subset_append_right _ _)

/-- The select list is written with listed words and those of the expressions. -/
theorem itemsWords_listed (h : ∀ name ∈ s.names, quotable name) :
    ∀ w ∈ s.itemsWords, w.IsListed innerKeywords quotable ∨
      ∃ text ∈ s.items.filterMap SelectItem.expression?, w ∈ DashQuery.words text := by
  unfold itemsWords
  intro w hw
  split at hw
  · -- an empty list is written as a star
    rw [List.mem_singleton.mp hw]
    exact .inl (Word.isListed_symbol.mpr (by decide))
  · rcases mem_intercalate hw with hmem | ⟨ws, hws, hmem⟩
    · rw [List.mem_singleton.mp hmem]
      exact .inl trivial
    · obtain ⟨item, hitem, rfl⟩ := List.mem_map.mp hws
      have hnames : ∀ name ∈ item.names, quotable name := fun name hname =>
        h name (mem_names_of_item hitem hname)
      rcases SelectItem.words_listed hnames w hmem with hlisted | ⟨text, htext, hword⟩
      · exact .inl hlisted
      · exact .inr ⟨text, List.mem_filterMap.mpr ⟨item, hitem, htext⟩, hword⟩

/-- The tables are written with the keywords of clauses, inner words and names. -/
theorem tableWords_listed (h : ∀ name ∈ s.names, quotable name) :
    ∀ w ∈ s.tableWords.flatten, w.IsListed vocabulary quotable := by
  have hclause : ∀ {text : String}, text ∈ vocabulary →
      (Word.keyword text).IsListed vocabulary quotable := Word.isListed_keyword.mpr
  intro w hw
  obtain ⟨ws, hws, hmem⟩ := List.mem_flatten.mp hw
  rcases List.mem_cons.mp hws with rfl | hws
  -- the source table, behind its keyword
  · simp only [List.mem_cons, List.not_mem_nil, or_false] at hmem
    rcases hmem with rfl | rfl
    · exact hclause (by decide)
    · exact Word.isListed_quoted.mpr (h _ source_mem_names)
  · obtain ⟨j, hj, rfl⟩ := List.mem_map.mp hws
    -- a join has its two keywords, and inner words behind them
    have hnames : ∀ name ∈ j.names, quotable name := fun name hname =>
      h name (mem_names_of_join hj hname)
    rcases List.mem_cons.mp hmem with rfl | hmem
    · cases j.kind <;> exact hclause (by decide)
    · rcases List.mem_cons.mp hmem with rfl | hmem
      · exact hclause (by decide)
      · exact mono_inner (JoinClause.tailWords_listed hnames w hmem)

/-- The clauses up to the tables: the select list behind its keyword, then the tables. -/
theorem leadingWords_listed (h : ∀ name ∈ s.names, quotable name) :
    ∀ w ∈ s.leadingWords.flatten, w.IsListed vocabulary quotable ∨
      ∃ text ∈ s.items.filterMap SelectItem.expression?, w ∈ DashQuery.words text := by
  intro w hw
  rw [show s.leadingWords = (Word.keyword "SELECT" :: s.itemsWords) :: s.tableWords from rfl,
    List.flatten_cons, List.mem_append, List.mem_cons] at hw
  rcases hw with (rfl | hw) | hw
  · exact .inl (Word.isListed_keyword.mpr (by decide))
  · exact (itemsWords_listed h w hw).imp_left mono_inner
  · exact .inl (tableWords_listed h w hw)

/-- A clause of a list is written with its keywords and the words of its parts. -/
theorem listWords_listed {keywords : List Word} {parts : List (List Word)}
    (hk : ∀ w ∈ keywords, w.IsListed vocabulary quotable)
    (h : ∀ ws ∈ parts, ∀ w ∈ ws, w.IsListed innerKeywords quotable) :
    ∀ ws ∈ listWords keywords parts, ∀ w ∈ ws, w.IsListed vocabulary quotable := by
  unfold listWords
  split
  · -- an empty list has no clause
    exact List.forall_mem_nil _
  · intro ws hws w hw
    rw [List.mem_singleton.mp hws, List.mem_append] at hw
    exact hw.elim (hk w) fun hmem => mono_inner (commas_listed h w hmem)

/-- The clauses behind the filter are written with the vocabulary, names and numbers. -/
theorem trailingWords_listed (h : ∀ name ∈ s.names, quotable name) :
    ∀ w ∈ s.trailingWords.flatten, w.IsListed vocabulary quotable := by
  have hkeyword : ∀ {text : String}, text ∈ vocabulary →
      (Word.keyword text).IsListed vocabulary quotable := Word.isListed_keyword.mpr
  -- what each clause holds
  have hgroup : ∀ ws ∈ s.groupBy.map ColumnRef.words, ∀ w ∈ ws,
      w.IsListed innerKeywords quotable := by
    intro ws hws
    obtain ⟨ref, href, rfl⟩ := List.mem_map.mp hws
    exact ColumnRef.words_listed fun part hpart => h part (mem_names_of_groupBy href hpart)
  have horder : ∀ ws ∈ s.orderBy.map SortTerm.words, ∀ w ∈ ws,
      w.IsListed innerKeywords quotable := by
    intro ws hws
    obtain ⟨t, ht, rfl⟩ := List.mem_map.mp hws
    exact SortTerm.words_listed fun part hpart => h part (mem_names_of_orderBy ht hpart)
  -- the keywords in front of it
  have hby : ∀ {text : String}, text ∈ vocabulary →
      ∀ w ∈ [Word.keyword text, Word.keyword "BY"], w.IsListed vocabulary quotable := fun htext =>
    List.forall_mem_cons.mpr
      ⟨hkeyword htext, List.forall_mem_singleton.mpr (hkeyword (by decide))⟩
  have hnumber : ∀ {text : String} (n : Nat), text ∈ vocabulary →
      ∀ w ∈ [Word.keyword text, Word.number n], w.IsListed vocabulary quotable := fun n htext =>
    List.forall_mem_cons.mpr
      ⟨hkeyword htext, List.forall_mem_singleton.mpr (Word.isListed_number n)⟩
  intro w hw
  obtain ⟨ws, hws, hmem⟩ := List.mem_flatten.mp hw
  simp only [trailingWords, List.mem_append, List.mem_singleton, List.mem_map,
    Option.mem_toList] at hws
  -- grouping, sorting, the limit, and the offset if there is one
  rcases hws with ((hws | hws) | rfl) | ⟨n, -, rfl⟩
  · exact listWords_listed (hby (by decide)) hgroup ws hws w hmem
  · exact listWords_listed (hby (by decide)) horder ws hws w hmem
  · exact hnumber _ (by decide) w hmem
  · exact hnumber _ (by decide) w hmem

end SelectStatement

namespace Query

variable {bounds : FilterBounds} {settings : Settings} {catalog : Catalog} {scope : Scope}
  {q : Query} {s : SelectStatement} {b : BoundText}

/-- The predicate of a query is written with inner keywords and names of legal columns. -/
theorem filterSlots_listed (hscope : q.scope catalog = .ok scope)
    (h : q.predicate bounds scope = .ok b) : ∀ slot ∈ q.filterSlots scope,
      slot.IsListed innerKeywords fun name =>
        Name.isValid name = true ∧ q.MayQuote catalog scope name := by
  have hleaf : ∀ c ∈ q.conditions, ∀ slot ∈ c.slots scope, slot.IsListed innerKeywords fun name =>
      Name.isValid name = true ∧ q.MayQuote catalog scope name := by
    intro c hc
    obtain ⟨b, hb⟩ := conditions_checked h c hc
    -- its column was checked like any other reference
    obtain ⟨hvalid, hlegal, -, op, tail, hop, -, -⟩ := Condition.predicate_eq_ok_iff.mp hb
    simp only [Condition.slots, Condition.atom?, hop]
    exact Atom.slots_listed
      (reference_checked hscope (Scope.reference_eq_ok_iff.mpr ⟨hvalid, hlegal, rfl⟩))
  -- the conditions of the query are the leaves of its filter
  unfold conditions at hleaf
  unfold filterSlots
  cases hf : q.filters with
  | none => exact List.forall_mem_nil _
  | some filters =>
    simp only [hf] at hleaf
    exact joinSlots_listed (Combinator.keyword_listed _) (FilterNode.slotsOf_listed _ hleaf)

/-- A statement without computed columns is written with the vocabulary, numbers, marks and
placeholders, and quotes only valid names that are known: registered tables, aliases of joins, legal
columns or sides of them, and aliases of the select list. -/
theorem compile_listed (h : q.compile settings catalog = .ok s) (he : q.expressionColumns = []) :
    ∃ scope, q.scope catalog = .ok scope ∧ ∀ t ∈ Token.scan s.text,
      t.word = Word.placeholder ∨ t.word.IsListed vocabulary fun name =>
        Name.isValid name = true ∧ q.MayQuote catalog scope name := by
  obtain ⟨scope, hc⟩ := compile_eq_ok_iff.mp h
  have hwords : words s.text = s.words := (hc.legible (.inr he)).reads_text.words_eq
  obtain ⟨keyword, haround, hkeyword⟩ := s.words_eq_around
  refine ⟨scope, hc.scope_eq, fun t ht => ?_⟩
  have hmem : t.word ∈ s.words := by
    rw [← hwords]
    exact List.mem_map_of_mem ht
  -- what stands before the filter, its keyword, the filter, and what stands behind
  simp only [haround, List.mem_append] at hmem
  rcases hmem with ((hmem | hmem) | hmem) | hmem
  · rcases SelectStatement.leadingWords_listed hc.names_checked _ hmem with hlisted |
      ⟨text, htext, -⟩
    · exact .inr hlisted
    · -- there is no expression to write words
      rw [hc.expressions_eq, he] at htext
      cases htext
  · rw [List.mem_singleton.mp (hkeyword hmem)]
    exact .inr (Word.isListed_keyword.mpr (by decide))
  · -- a word of the predicate is written in a slot: a value's place or a fixed word
    rw [(shows_predicate hc.predicate).reads.words_eq] at hmem
    obtain ⟨slot, hslot, hword⟩ := List.mem_map.mp hmem
    have hlisted := filterSlots_listed hc.scope_eq hc.predicate slot hslot
    cases slot with
    | value p => exact .inl hword.symm
    | fixed w => exact .inr (hword ▸ SelectStatement.mono_inner hlisted)
  · exact .inr (SelectStatement.trailingWords_listed hc.names_checked _ hmem)

/-- A registry in which one column name holds a quote. -/
def sampleCatalog : Catalog :=
  (Catalog.empty.insert "orders"
    [⟨"id", .integer⟩, ⟨"city", .text⟩, ⟨"na\"me", .text⟩]).insert "users"
    [⟨"id", .integer⟩, ⟨"city", .text⟩]

/-- A count by city over a join, with a value that holds a question mark. -/
def sample : Query where
  sourceTable := "orders"
  columns := [⟨"city", none, none⟩, ⟨"id", none, some .count⟩]
  expressionColumns := []
  joins := [⟨.left, "users", some "u", "orders.id", "u.id"⟩]
  filters := some (.list [.condition ⟨"city", "IN", .arr [.str "a?", .str "b"]⟩,
    .group .or [.condition ⟨"id", "BETWEEN", .arr [.int 1, .int 9]⟩, .group .and []]])
  groupBy := ["city"]
  orderBy := [⟨"count_id", "DESC"⟩]
  limit := some 5
  offset := none

/-- A statement with every kind of clause is written like this. -/
theorem sample_listed : ∃ s, sample.compile Settings.default sampleCatalog = .ok s ∧
    ∃ scope, sample.scope sampleCatalog = .ok scope ∧ ∀ t ∈ Token.scan s.text,
      t.word = Word.placeholder ∨ t.word.IsListed vocabulary fun name =>
        Name.isValid name = true ∧ sample.MayQuote sampleCatalog scope name := by
  have h : ∃ s, sample.compile Settings.default sampleCatalog = .ok s := ⟨_, rfl⟩
  obtain ⟨s, hs⟩ := h
  exact ⟨s, hs, compile_listed hs rfl⟩

end Query

end DashQuery
