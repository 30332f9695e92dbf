import DashQuery.Proofs.Lexing.References
import DashQuery.Proofs.Lists
import DashQuery.Statement.Select

/-!
# The words of a statement

The text of a statement is made of keywords, quoted names, numbers, and two kinds
of text that come from elsewhere: its predicate and the expressions of computed
columns.  A statement is `Legible` if its names are valid and the texts from
elsewhere leave no literal open.  Then its tokens are known clause by clause.

## Key results

- `SelectStatement.reads_text_of_items`: a statement whose select list can be read can be read
- `SelectStatement.Legible.reads_text`: a legible statement reads as its clauses' words
- `SelectStatement.words_eq_around`: the words around the predicate
-/

namespace DashQuery

/-- Two texts with a word or several between them. -/
theorem Reads.around {a b k : String} {u v ws : List Word} (hk : Reads k ws) (ha : Reads a u)
    (hb : Reads b v) : Reads (a ++ (" " ++ k ++ " ") ++ b) (u ++ ws ++ v) := by
  have hpadded := (ha.space hk).space hb
  simpa only [String.append_assoc] using hpadded

/-- A text without an unclosed literal consists of its words. -/
theorem reads_of_closed {text : String} (h : ∀ w ∈ words text, w.isUnclosed = false) :
    Reads text (words text) := ⟨rfl, h⟩

/-! ## Aliases -/

/-- The words with which an alias is given, if there is one. -/
def aliasWords : Option String → List Word
  | some aliasName => [Word.keyword "AS", Word.quoted aliasName]
  | none => []

/-- What has an alias is read up to the alias. -/
theorem Reads.aliased {a : String} {u : List Word} (ha : Reads a u) (aliasName : Option String) :
    (∀ n ∈ aliasName, Name.isValid n = true) →
    Reads (match aliasName with
      | some n => a ++ " AS " ++ Name.quote n
      | none => a) (u ++ aliasWords aliasName) := by
  intro h
  cases aliasName with
  | none =>
    rw [aliasWords, List.append_nil]
    exact ha
  | some n =>
    -- the alias stands quoted behind its keyword
    have haround := (reads_keyword "AS").around ha (reads_quote (h n rfl))
    rwa [List.append_assoc] at haround

/-! ## Entries of the select list -/

namespace SelectItem

/-- The names that stand between quotes in the entry. -/
def names : SelectItem → List String
  | column ref aliasName => ref.parts ++ aliasName.toList
  | aggregate _ ref aliasName => ref.parts ++ [aliasName]
  | expression _ aliasName => [aliasName]

/-- The expression that the entry holds. -/
def expression? : SelectItem → Option String
  | expression text _ => some text
  | _ => none

/-- The words of what is selected. -/
def bodyWords : SelectItem → List Word
  | column ref _ => ref.words
  | aggregate function ref _ =>
    [Word.keyword function.name] ++ Word.leftParen :: (ref.words ++ [Word.rightParen])
  | expression text _ => DashQuery.words text

/-- The words of the entry. -/
def words (item : SelectItem) : List Word := item.bodyWords ++ aliasWords item.aliasName?

/-- The names of the entry are valid, and its expression leaves no literal open. -/
structure Legible (item : SelectItem) : Prop where
  names : ∀ name ∈ item.names, Name.isValid name = true
  closed : ∀ text ∈ item.expression?, ∀ w ∈ DashQuery.words text, w.isUnclosed = false

/-- What stands in front of an entry's alias can be read. -/
theorem Legible.reads_body {item : SelectItem} (h : item.Legible) :
    Reads item.body item.bodyWords := by
  cases item with
  | column ref aliasName =>
    exact ColumnRef.reads_text fun part hpart => h.names part (by simp [SelectItem.names, hpart])
  | aggregate function ref aliasName =>
    -- the names of functions are words
    have hname : Reads function.name [Word.keyword function.name] := by
      cases function <;> exact reads_keyword _
    have href : Reads ref.text ref.words :=
      ColumnRef.reads_text fun part hpart => h.names part (by simp [SelectItem.names, hpart])
    exact hname.call href
  | expression text aliasName => exact reads_of_closed (h.closed text rfl)

/-- An entry of the select list can be read. -/
theorem Legible.reads_text {item : SelectItem} (h : item.Legible) : Reads item.text item.words := by
  refine h.reads_body.aliased item.aliasName? fun n hn => h.names n ?_
  cases item <;> simp_all [SelectItem.names, aliasName?]

end SelectItem

/-! ## Joins and sort keys -/

namespace JoinClause

/-- The names that stand between quotes in the join. -/
def names (j : JoinClause) : List String :=
  j.table :: j.aliasName.toList ++ j.left.parts ++ j.right.parts

/-- The words of the joined table. -/
def targetWords (j : JoinClause) : List Word := Word.quoted j.table :: aliasWords j.aliasName

/-- The words behind the keyword that opens the join: the table and the condition. -/
def tailWords (j : JoinClause) : List Word :=
  j.targetWords ++ [Word.keyword "ON"] ++ j.left.words ++ [Word.symbol "="] ++ j.right.words

/-- The words of the join. -/
def words (j : JoinClause) : List Word :=
  Word.keyword j.kind.name :: Word.keyword "JOIN" :: j.tailWords

/-- A join can be read. -/
theorem reads_text {j : JoinClause} (h : ∀ name ∈ j.names, Name.isValid name = true) :
    Reads j.text j.words := by
  -- the pieces: kind, table, and the two sides of the condition
  have hkind : Reads j.kind.name [Word.keyword j.kind.name] := by
    cases j.kind <;> exact reads_keyword _
  have htable : Reads (Name.quote j.table) [Word.quoted j.table] :=
    reads_quote (h _ (by simp [names]))
  have htarget : Reads j.target j.targetWords :=
    htable.aliased j.aliasName fun n hn => h n (by simp [names, Option.mem_def.mp hn])
  have hleft : Reads j.left.text j.left.words :=
    ColumnRef.reads_text fun part hpart => h part (by simp [names, hpart])
  have hright : Reads j.right.text j.right.words :=
    ColumnRef.reads_text fun part hpart => h part (by simp [names, hpart])
  have hequal : Reads "=" [Word.symbol "="] :=
    reads_lexeme (c := '=') rfl (by decide) rfl (by decide)
  -- the pieces around the keywords
  have hjoin := (reads_keyword "JOIN").around hkind htarget
  have hon := (reads_keyword "ON").around hjoin hleft
  -- the words in the order in which the pieces are put together
  have hwords : j.words = [Word.keyword j.kind.name] ++ [Word.keyword "JOIN"] ++ j.targetWords ++
      [Word.keyword "ON"] ++ j.left.words ++ [Word.symbol "="] ++ j.right.words := by
    simp [words, tailWords]
  rw [hwords]
  exact hequal.around hon hright

end JoinClause

/-- The words of a sort key. -/
def SortTerm.words (t : SortTerm) : List Word := t.ref.words ++ [Word.keyword t.direction.text]

/-- A sort term can be read. -/
theorem SortTerm.reads_text {t : SortTerm} (h : t.ref.IsValid) : Reads t.text t.words := by
  have hdirection : Reads t.direction.text [Word.keyword t.direction.text] := by
    cases t.direction <;> exact reads_keyword _
  exact (ColumnRef.reads_text h).space hdirection

/-! ## The clauses -/

/-- Parts with commas between them are read part by part. -/
theorem reads_commaSeparated {texts : List String} {wss : List (List Word)}
    (h : List.Forall₂ Reads texts wss) :
    Reads (SelectStatement.commaSeparated texts) ([Word.comma].intercalate wss) := by
  refine Reads.intercalate (fun ha hb => ?_) h
  rw [List.append_assoc]
  exact ha.comma hb

/-- What is read part by part is read member by member. -/
theorem forall₂_reads {α : Type} {text : α → String} {ws : α → List Word} {xs : List α}
    (h : ∀ x ∈ xs, Reads (text x) (ws x)) : List.Forall₂ Reads (xs.map text) (xs.map ws) := by
  rw [List.forall₂_map_left_iff, List.forall₂_map_right_iff, List.forall₂_same]
  exact h

namespace SelectStatement

/-- The names that stand between quotes outside of the predicate and the expressions. -/
def names (s : SelectStatement) : List String :=
  s.items.flatMap SelectItem.names ++ s.source :: s.joins.flatMap JoinClause.names ++
    s.groupBy.flatMap ColumnRef.parts ++ s.orderBy.flatMap fun t => t.ref.parts

/-- The words of the select list. -/
def itemsWords (s : SelectStatement) : List Word :=
  if s.items.isEmpty then [Word.symbol "*"]
  else [Word.comma].intercalate (s.items.map SelectItem.words)

/-- The words of a clause that is left out if it has no parts. -/
def listWords (keywords : List Word) (parts : List (List Word)) : List (List Word) :=
  if parts.isEmpty then [] else [keywords ++ [Word.comma].intercalate parts]

/-- The clauses that name tables: the source and the joins. -/
def tableClauses (s : SelectStatement) : List String :=
  ("FROM " ++ Name.quote s.source) :: s.joins.map JoinClause.text

/-- The words of the clauses that name tables. -/
def tableWords (s : SelectStatement) : List (List Word) :=
  [Word.keyword "FROM", Word.quoted s.source] :: s.joins.map JoinClause.words

/-- The words of the clauses in front of the condition on rows. -/
def leadingWords (s : SelectStatement) : List (List Word) :=
  [Word.keyword "SELECT" :: s.itemsWords, [Word.keyword "FROM", Word.quoted s.source]] ++
    s.joins.map JoinClause.words

/-- The words of the condition on rows. -/
def whereWords (s : SelectStatement) : List (List Word) :=
  if s.predicate.isEmpty then [] else [Word.keyword "WHERE" :: DashQuery.words s.predicate.text]

/-- The words of the clauses behind the condition on rows. -/
def trailingWords (s : SelectStatement) : List (List Word) :=
  listWords [Word.keyword "GROUP", Word.keyword "BY"] (s.groupBy.map ColumnRef.words) ++
    listWords [Word.keyword "ORDER", Word.keyword "BY"] (s.orderBy.map SortTerm.words) ++
    [[Word.keyword "LIMIT", Word.number s.limit.toNat]] ++
    s.offset.toList.map fun n => [Word.keyword "OFFSET", Word.number n.toNat]

/-- The words of the statement. -/
def words (s : SelectStatement) : List Word :=
  (s.leadingWords ++ s.whereWords ++ s.trailingWords).flatten

/-- The names of the statement are valid, and no expression and no predicate leaves a literal
open. -/
structure Legible (s : SelectStatement) : Prop where
  names : ∀ name ∈ s.names, Name.isValid name = true
  items : ∀ item ∈ s.items, ∀ text ∈ item.expression?, ∀ w ∈ DashQuery.words text,
    w.isUnclosed = false
  predicate : ∀ w ∈ DashQuery.words s.predicate.text, w.isUnclosed = false

variable {s : SelectStatement} {name : String}

/-- The source table is one of the statement's names. -/
theorem source_mem_names : s.source ∈ s.names := by simp [names]

/-- So are the names in the entries of the select list. -/
theorem mem_names_of_item {item : SelectItem} (hitem : item ∈ s.items) (hname : name ∈ item.names) :
    name ∈ s.names := by
  simp only [names, List.mem_append, List.mem_flatMap]
  exact .inl (.inl (.inl ⟨item, hitem, hname⟩))

/-- So are the names in the joins. -/
theorem mem_names_of_join {j : JoinClause} (hj : j ∈ s.joins) (hname : name ∈ j.names) :
    name ∈ s.names := by
  simp only [names, List.mem_append, List.mem_cons, List.mem_flatMap]
  exact .inl (.inl (.inr (.inr ⟨j, hj, hname⟩)))

/-- So are the names in the grouping. -/
theorem mem_names_of_groupBy {ref : ColumnRef} (href : ref ∈ s.groupBy) (hname : name ∈ ref.parts) :
    name ∈ s.names := by
  simp only [names, List.mem_append, List.mem_flatMap]
  exact .inl (.inr ⟨ref, href, hname⟩)

/-- So are the names in the sort terms. -/
theorem mem_names_of_orderBy {t : SortTerm} (ht : t ∈ s.orderBy) (hname : name ∈ t.ref.parts) :
    name ∈ s.names := by
  simp only [names, List.mem_append, List.mem_flatMap]
  exact .inr ⟨t, ht, hname⟩

/-- A clause that is a list can be read, whether it is there or not. -/
theorem reads_listClause {keyword : String} {keywords : List Word} {texts : List String}
    {wss : List (List Word)} (hk : Reads keyword keywords) (h : List.Forall₂ Reads texts wss) :
    List.Forall₂ Reads (listClause keyword texts) (listWords keywords wss) := by
  unfold listClause listWords
  cases h with
  | nil => exact .nil
  | cons hx hrest =>
    simp only [List.isEmpty_cons, Bool.false_eq_true, if_false]
    exact .cons (hk.space (reads_commaSeparated (.cons hx hrest))) .nil

/-- The select list can be read. -/
theorem Legible.reads_items (h : s.Legible) : Reads s.itemsText s.itemsWords := by
  unfold itemsText itemsWords
  split
  · exact reads_lexeme (c := '*') rfl (by decide) rfl (by decide)
  · refine reads_commaSeparated (forall₂_reads fun item hitem => ?_)
    refine SelectItem.Legible.reads_text ⟨fun name hname => ?_, h.items item hitem⟩
    exact h.names name (mem_names_of_item hitem hname)

/-- The tables can be read. -/
theorem reads_tables (h : ∀ name ∈ s.names, Name.isValid name = true) :
    List.Forall₂ Reads s.tableClauses s.tableWords := by
  have hsource : Name.isValid s.source = true := h _ source_mem_names
  refine .cons ((reads_keyword "FROM").space (reads_quote hsource)) (forall₂_reads ?_)
  intro j hj
  exact JoinClause.reads_text fun name hname => h name (mem_names_of_join hj hname)

/-- The filter can be read, if nothing in it is left open. -/
theorem reads_where (h : ∀ w ∈ DashQuery.words s.predicate.text, w.isUnclosed = false) :
    List.Forall₂ Reads s.whereClause s.whereWords := by
  unfold whereClause whereWords
  split
  · exact .nil
  · exact .cons ((reads_keyword "WHERE").space (reads_of_closed h)) .nil

/-- The clauses behind the filter can be read. -/
theorem reads_trailing (h : ∀ name ∈ s.names, Name.isValid name = true) :
    List.Forall₂ Reads (listClause "GROUP BY" (s.groupBy.map ColumnRef.text) ++
      listClause "ORDER BY" (s.orderBy.map SortTerm.text) ++ ["LIMIT " ++ toString s.limit.toNat] ++
      s.offsetClause) s.trailingWords := by
  -- the grouping and the sorting, whose names are those of the statement
  have hgroup : List.Forall₂ Reads (listClause "GROUP BY" (s.groupBy.map ColumnRef.text))
      (listWords [Word.keyword "GROUP", Word.keyword "BY"] (s.groupBy.map ColumnRef.words)) := by
    refine reads_listClause ((reads_keyword "GROUP").space (reads_keyword "BY"))
      (forall₂_reads fun ref href => ColumnRef.reads_text fun part hpart => ?_)
    exact h part (mem_names_of_groupBy href hpart)
  have horder : List.Forall₂ Reads (listClause "ORDER BY" (s.orderBy.map SortTerm.text))
      (listWords [Word.keyword "ORDER", Word.keyword "BY"] (s.orderBy.map SortTerm.words)) := by
    refine reads_listClause ((reads_keyword "ORDER").space (reads_keyword "BY"))
      (forall₂_reads fun t ht => SortTerm.reads_text fun part hpart => ?_)
    exact h part (mem_names_of_orderBy ht hpart)
  -- the limit, and the offset if there is one
  have hlimit : List.Forall₂ Reads ["LIMIT " ++ toString s.limit.toNat]
      [[Word.keyword "LIMIT", Word.number s.limit.toNat]] :=
    .cons ((reads_keyword "LIMIT").space (reads_number _)) .nil
  have hoffset : List.Forall₂ Reads s.offsetClause
      (s.offset.toList.map fun n => [Word.keyword "OFFSET", Word.number n.toNat]) := by
    unfold offsetClause
    cases s.offset with
    | none => exact .nil
    | some n => exact .cons ((reads_keyword "OFFSET").space (reads_number _)) .nil
  exact List.rel_append (List.rel_append (List.rel_append hgroup horder) hlimit) hoffset

/-- A statement reads clause by clause if its select list and its predicate leave no literal open,
whatever the select list reads as. -/
theorem reads_text_of_items {items : List Word}
    (hnames : ∀ name ∈ s.names, Name.isValid name = true)
    (hpredicate : ∀ w ∈ DashQuery.words s.predicate.text, w.isUnclosed = false)
    (hitems : Reads s.itemsText items) :
    Reads s.text
      ((Word.keyword "SELECT" :: items) :: s.tableWords ++ s.whereWords ++
        s.trailingWords).flatten := by
  -- the select list and the tables
  have hleading : List.Forall₂ Reads (("SELECT " ++ s.itemsText) :: s.tableClauses)
      ((Word.keyword "SELECT" :: items) :: s.tableWords) :=
    .cons ((reads_keyword "SELECT").space hitems) (reads_tables hnames)
  -- all clauses, in their order
  have hclauses : List.Forall₂ Reads s.clauses
      ((Word.keyword "SELECT" :: items) :: s.tableWords ++ s.whereWords ++ s.trailingWords) := by
    have hall := List.rel_append (List.rel_append hleading (reads_where hpredicate))
      (reads_trailing hnames)
    simpa only [clauses, tableClauses, List.cons_append, List.nil_append,
      List.append_assoc] using hall
  -- a single blank between two clauses adds no word
  have hspace : ∀ {a b : String} {u v : List Word}, Reads a u → Reads b v →
      Reads (a ++ " " ++ b) (u ++ [] ++ v) := by
    intro a b u v ha hb
    rw [List.append_nil]
    exact ha.space hb
  have hread := Reads.intercalate hspace hclauses
  rwa [nil_intercalate] at hread

/-- A legible statement reads as the words of its clauses. -/
theorem Legible.reads_text (h : s.Legible) : Reads s.text s.words :=
  reads_text_of_items h.names h.predicate h.reads_items

/-- Behind any clauses, the predicate's words stand in one piece. -/
theorem flatten_eq_around (s : SelectStatement) (leading : List (List Word)) : ∃ keyword,
    (leading ++ s.whereWords ++ s.trailingWords).flatten =
      (leading.flatten ++ keyword) ++ DashQuery.words s.predicate.text ++
        s.trailingWords.flatten ∧ keyword ⊆ [Word.keyword "WHERE"] := by
  unfold whereWords
  split
  · next hempty =>
    refine ⟨[], ?_, List.nil_subset _⟩
    -- without a predicate there is neither the keyword nor a word of it
    rw [BoundText.isEmpty_iff.mp hempty, Reads.empty.words_eq]
    simp only [List.flatten_append, List.append_nil]
  · refine ⟨[Word.keyword "WHERE"], ?_, List.Subset.refl _⟩
    simp

/-- The predicate's words stand in one piece among those of the statement. -/
theorem words_eq_around (s : SelectStatement) : ∃ keyword, s.words =
    (s.leadingWords.flatten ++ keyword) ++ DashQuery.words s.predicate.text ++
      s.trailingWords.flatten ∧ keyword ⊆ [Word.keyword "WHERE"] :=
  s.flatten_eq_around s.leadingWords

end SelectStatement

end DashQuery
