import DashQuery.Proofs.Expression.TypeWords
import DashQuery.Proofs.Statement.Names
import Mathlib.Algebra.GroupWithZero.Nat

/-!
# Entries of the select list

A select list is read as the parts between the commas that stand in no parentheses,
and each part makes one column of the result.  A list that is put together of parts
in which the parentheses match is read as what the parts are read as, one after the
other.  The compiler writes such a part for each entry, but the check of expressions
lets a comma and the keyword `AS` pass at any depth.  So a computed column is read as
the one entry that its alias names only if neither stands outside of parentheses.

## Key results

- `entriesAt_append_comma`: a comma behind matching parentheses separates entries
- `entries_commaSeparated`: a select list is read entry by entry
- `Query.compile_entries`: how many entries a validated select list is read as
- `Expression.accepted_entries`: when a computed column is read as one entry
-/

namespace DashQuery

/-- How many parentheses are open behind a token, if `depth` are open in front of it. -/
def TokenKind.openBehind (depth : Nat) : TokenKind → Nat
  | .leftParen => depth + 1
  | .rightParen => depth - 1
  | _ => depth

/-- The words in front of which no parenthesis is open, if `depth` are in front of the first. -/
def outside (depth : Nat) : List Word → List Word
  | [] => []
  | w :: ws =>
    if depth = 0 then w :: outside (w.kind.openBehind depth) ws
    else outside (w.kind.openBehind depth) ws

/-- The parts between the commas in front of which no parenthesis is open, if `depth` are in front
of the first word. -/
def entriesAt (depth : Nat) : List Word → List (List Word)
  | [] => [[]]
  | w :: ws =>
    if depth = 0 ∧ w.kind = .comma then [] :: entriesAt (w.kind.openBehind depth) ws
    else (entriesAt (w.kind.openBehind depth) ws).modifyHead (w :: ·)

/-- The entries that a select list is read as. -/
def entries (text : String) : List (List Word) := entriesAt 0 (words text)

/-- How many commas of a text stand in no parentheses. -/
def outerCommas (text : String) : Nat := (outside 0 (words text)).countP (·.kind == .comma)

/-! ## Reading word by word -/

/-- Behind the first token the parentheses match at the depth it leaves. -/
theorem Closes.openBehind {depth : Nat} {k : TokenKind} {ks : List TokenKind}
    (h : Closes depth (k :: ks)) : Closes (k.openBehind depth) ks := by
  cases h with
  | leftParen rest => exact rest
  | rightParen rest => exact rest
  | other hl hr rest =>
    have hdepth : k.openBehind depth = depth := by
      cases k <;> first | rfl | exact absurd rfl hl | exact absurd rfl hr
    rwa [hdepth]

section

variable {depth : Nat} {us vs ws : List Word}

/-- Even no words at all are one entry, an empty one. -/
theorem entriesAt_ne_nil : entriesAt depth ws ≠ [] := by
  induction ws generalizing depth with
  | nil => simp [entriesAt]
  | cons w ws ih =>
    rw [entriesAt]
    split
    · simp
    · simp [ih]

/-- What stands outside of parentheses is among the words. -/
theorem outside_subset : outside depth ws ⊆ ws := by
  induction ws generalizing depth with
  | nil => exact List.nil_subset _
  | cons w ws ih =>
    rw [outside]
    split
    · exact List.cons_subset_cons w ih
    · exact List.subset_cons_of_subset w ih

/-- There is one part more than there are commas between them. -/
theorem length_entriesAt :
    (entriesAt depth ws).length = (outside depth ws).countP (·.kind == .comma) + 1 := by
  induction ws generalizing depth with
  | nil => rfl
  | cons w ws ih =>
    rw [entriesAt, outside]
    -- only a comma outside of parentheses counts, and only it begins a part
    by_cases hd : depth = 0
    · by_cases hc : w.kind = .comma
      · simp [hd, hc, ih]
      · simp [hd, hc, ih]
    · simp [hd, ih]

/-- Without a comma outside of parentheses the words are one entry. -/
theorem entriesAt_eq_singleton (h : ∀ w ∈ outside depth ws, w.kind ≠ .comma) :
    entriesAt depth ws = [ws] := by
  induction ws generalizing depth with
  | nil => rfl
  | cons w ws ih =>
    rw [outside] at h
    rw [entriesAt]
    -- only at depth 0 is a comma at the front a separator
    by_cases hd : depth = 0
    · rw [if_pos hd, List.forall_mem_cons] at h
      rw [if_neg fun hc => h.1 hc.2, ih h.2]
      rfl
    · rw [if_neg hd] at h
      rw [if_neg fun hc => hd hc.1, ih h]
      rfl

-- the comma between the arguments stands in parentheses
example : (entries "COALESCE(id, city) AS place, total").length = 2 := by decide +kernel

/-- Behind matching parentheses the words are read as at the start. -/
theorem outside_append (h : Closes depth (us.map Word.kind)) :
    outside depth (us ++ vs) = outside depth us ++ outside 0 vs := by
  induction us generalizing depth with
  | nil =>
    cases h
    rfl
  | cons u us ih =>
    rw [List.cons_append, outside, outside, ih h.openBehind]
    split <;> rfl

/-- A comma behind matching parentheses separates entries. -/
theorem entriesAt_append_comma (h : Closes depth (us.map Word.kind)) :
    entriesAt depth (us ++ Word.comma :: vs) = entriesAt depth us ++ entriesAt 0 vs := by
  induction us generalizing depth with
  | nil =>
    cases h
    rfl
  | cons u us ih =>
    rw [List.cons_append, entriesAt, entriesAt, ih h.openBehind]
    split
    · rfl
    · -- the word goes to the first of the parts, which is one of those of `us`
      have hne : entriesAt (u.kind.openBehind depth) us ≠ [] := entriesAt_ne_nil
      obtain ⟨part, parts, hparts⟩ := List.exists_cons_of_ne_nil hne
      rw [hparts]
      rfl

/-- A list made of parts is read as what the parts are read as. -/
theorem entriesAt_intercalate {wss : List (List Word)} (hne : wss ≠ [])
    (h : ∀ ws ∈ wss, Closes 0 (ws.map Word.kind)) :
    entriesAt 0 ([Word.comma].intercalate wss) = wss.flatMap (entriesAt 0) := by
  induction wss with
  | nil => exact absurd rfl hne
  | cons ws wss ih =>
    obtain ⟨hfirst, hrest⟩ := List.forall_mem_cons.mp h
    cases wss with
    -- one part has no separator behind it
    | nil => rw [List.intercalate_singleton, List.flatMap_singleton]
    | cons vs vss =>
      -- every part closes its own parentheses, so the comma behind it stands outside
      rw [List.intercalate_cons_cons, List.append_assoc, List.singleton_append,
        entriesAt_append_comma hfirst, ih (by simp) hrest]
      rfl

end

/-! ## Entries as the compiler writes them -/

section

variable {ws : List Word}

/-- Behind matching parentheses an alias stands in none. -/
theorem outside_aliased (h : Closes 0 (ws.map Word.kind)) (aliasName : Option String) :
    outside 0 (ws ++ aliasWords aliasName) = outside 0 ws ++ aliasWords aliasName := by
  rw [outside_append h]
  cases aliasName <;> rfl

/-- An alias adds no entry. -/
theorem length_entriesAt_aliased (h : Closes 0 (ws.map Word.kind)) (aliasName : Option String) :
    (entriesAt 0 (ws ++ aliasWords aliasName)).length =
      (outside 0 ws).countP (·.kind == .comma) + 1 := by
  rw [length_entriesAt, outside_aliased h, List.countP_append]
  cases aliasName <;> rfl

/-- Without a comma outside of its parentheses, what has an alias is one entry. -/
theorem entriesAt_aliased (h : Closes 0 (ws.map Word.kind))
    (hcomma : ∀ w ∈ outside 0 ws, w.kind ≠ .comma) {aliasName : Option String} :
    entriesAt 0 (ws ++ aliasWords aliasName) = [ws ++ aliasWords aliasName] := by
  have halias : ∀ w ∈ aliasWords aliasName, w.kind ≠ .comma := by
    cases aliasName <;> simp [aliasWords, Word.keyword, Word.quoted]
  apply entriesAt_eq_singleton
  rw [outside_aliased h]
  exact List.forall_mem_append.mpr ⟨hcomma, halias⟩

end

namespace SelectItem

variable {item : SelectItem}

/-- The names of the entry are valid, and if it is an expression, that leaves no literal open and
its parentheses match. -/
structure Nested (item : SelectItem) : Prop extends item.Legible where
  matched : ∀ text ∈ item.expression?, Closes 0 ((DashQuery.words text).map Word.kind)

/-- The words of a reference are no parentheses. -/
private theorem kind_ne_paren_of_ref (ref : ColumnRef) :
    ∀ k ∈ ref.words.map Word.kind, k ≠ .leftParen ∧ k ≠ .rightParen := by
  cases ref <;> simp [ColumnRef.words, Word.quoted, Word.dot]

/-- The parentheses of an entry match in what stands in front of its alias. -/
theorem Nested.closes_body (h : item.Nested) : Closes 0 (item.bodyWords.map Word.kind) := by
  cases item with
  | column ref aliasName => exact .of_forall (kind_ne_paren_of_ref ref)
  | aggregate function ref aliasName =>
    have hinner : Closes 1 (ref.words.map Word.kind ++ [.rightParen]) :=
      (Closes.rightParen .done).prepend (kind_ne_paren_of_ref ref)
    simp only [bodyWords, List.map_cons, List.map_append, List.map_nil]
    exact .other (by simp [Word.keyword]) (by simp [Word.keyword]) (.leftParen hinner)
  | expression text aliasName => exact h.matched text rfl

/-- An alias brings no parentheses with it. -/
theorem Nested.closes_words (h : item.Nested) : Closes 0 (item.words.map Word.kind) := by
  have halias : ∀ k ∈ (aliasWords item.aliasName?).map Word.kind,
      k ≠ .leftParen ∧ k ≠ .rightParen := by
    cases item.aliasName? <;> simp [aliasWords, Word.keyword, Word.quoted]
  rw [words, List.map_append]
  exact h.closes_body.append (.of_forall halias)

/-- Only expressions hold commas. -/
private theorem kind_ne_comma_of_body (h : item.expression? = none) :
    ∀ w ∈ item.bodyWords, w.kind ≠ .comma := by
  cases item with
  | column ref aliasName =>
    cases ref <;> simp [bodyWords, ColumnRef.words, Word.quoted, Word.dot]
  | aggregate function ref aliasName =>
    cases ref <;> simp [bodyWords, ColumnRef.words, Word.quoted, Word.dot, Word.keyword,
      Word.leftParen, Word.rightParen]
  | expression text aliasName => cases h

/-- An entry is read as one, unless it is an expression with commas outside of parentheses. -/
theorem Nested.length_entries (h : item.Nested) :
    (entries item.text).length = (item.expression?.toList.map outerCommas).sum + 1 := by
  rw [entries, h.toLegible.reads_text.words_eq, words, length_entriesAt_aliased h.closes_body]
  congr 1
  cases hexpression : item.expression? with
  -- columns and aggregates are written without a comma outside of parentheses
  | none =>
    refine List.countP_eq_zero.mpr fun w hw => ?_
    simpa using kind_ne_comma_of_body hexpression w (outside_subset hw)
  | some text =>
    cases item with
    | expression text' aliasName =>
      -- the words in front of the alias are those of the expression
      obtain rfl := Option.some.inj hexpression
      simp [bodyWords, outerCommas]
    | column | aggregate => cases hexpression

end SelectItem

/-- A select list is read entry by entry. -/
theorem entries_commaSeparated {items : List SelectItem} (hne : items ≠ [])
    (h : ∀ item ∈ items, item.Nested) :
    entries (SelectStatement.commaSeparated (items.map SelectItem.text)) =
      items.flatMap fun item => entries item.text := by
  have hreads : ∀ item ∈ items, Reads item.text item.words := fun item hitem =>
    (h item hitem).toLegible.reads_text
  have hcloses : ∀ ws ∈ items.map SelectItem.words, Closes 0 (ws.map Word.kind) := by
    intro ws hws
    obtain ⟨item, hitem, rfl⟩ := List.mem_map.mp hws
    exact (h item hitem).closes_words
  -- the list as a whole, and then each entry by itself
  rw [entries, (reads_commaSeparated (forall₂_reads hreads)).words_eq,
    entriesAt_intercalate (by simpa using hne) hcloses, List.flatMap_map]
  refine List.flatMap_congr fun item hitem => ?_
  rw [entries, (hreads item hitem).words_eq]

/-- Each entry is read as one, and with each comma in an expression as one more. -/
theorem length_entries_commaSeparated {items : List SelectItem} (hne : items ≠ [])
    (h : ∀ item ∈ items, item.Nested) :
    (entries (SelectStatement.commaSeparated (items.map SelectItem.text))).length =
      ((items.filterMap SelectItem.expression?).map outerCommas).sum + items.length := by
  rw [entries_commaSeparated hne h]
  clear hne
  induction items with
  | nil => rfl
  | cons item items ih =>
    obtain ⟨hfirst, hrest⟩ := List.forall_mem_cons.mp h
    -- one entry, and for an expression one more for each of its commas
    rw [List.flatMap_cons, List.length_append, hfirst.length_entries, ih hrest, List.length_cons,
      List.filterMap_cons]
    cases item.expression? <;> simp <;> omega

/-! ## Computed columns -/

/-- The entry is something with the alias behind it, in which `AS` stands in parentheses only. -/
def IsNamed (aliasName : String) (entry : List Word) : Prop :=
  ∃ body, entry = body ++ aliasWords (some aliasName) ∧
    ∀ w ∈ outside 0 body, Expression.isAs w.token = false

/-- What is written in front of an alias is one entry with that name exactly if neither a comma nor
`AS` stands outside of its parentheses. -/
theorem isNamed_iff {ws : List Word} (h : Closes 0 (ws.map Word.kind)) (aliasName : String) :
    (∃ entry, entriesAt 0 (ws ++ aliasWords (some aliasName)) = [entry] ∧
        IsNamed aliasName entry) ↔
      ∀ w ∈ outside 0 ws, w.kind ≠ .comma ∧ Expression.isAs w.token = false := by
  constructor
  · rintro ⟨entry, hentry, body, rfl, hbody⟩
    -- a comma would make a second entry
    have hlength := length_entriesAt_aliased h (some aliasName)
    rw [hentry, List.length_singleton] at hlength
    have hcount : (outside 0 ws).countP (·.kind == .comma) = 0 := by omega
    have hcomma : ∀ w ∈ outside 0 ws, w.kind ≠ .comma := by simpa using hcount
    -- so the entry is all that was written
    rw [entriesAt_aliased h hcomma] at hentry
    obtain rfl := List.append_cancel_right (List.singleton_inj.mp hentry)
    exact fun w hw => ⟨hcomma w hw, hbody w hw⟩
  · intro hplain
    refine ⟨_, entriesAt_aliased h fun w hw => (hplain w hw).1, ws, rfl, fun w hw => ?_⟩
    exact (hplain w hw).2

namespace Expression

variable {scope : Scope} {aliases : List String} {expression : String}

/-- An entry with an accepted expression can be read, and its parentheses match. -/
theorem nested_of_validate (h : validate scope aliases expression = .ok ()) {aliasName : String}
    (hname : Name.isValid aliasName = true) :
    (SelectItem.expression expression aliasName).Nested where
  names := by simpa [SelectItem.names] using hname
  closed := by
    intro text htext
    obtain rfl := Option.some.inj htext
    exact (reads_of_validate h).closed
  matched := by
    intro text htext
    obtain rfl := Option.some.inj htext
    -- the check counts parentheses as a reader does
    have hcloses := (accepts_iff.mp (validate_eq_ok_iff_words.mp h).2).1
    rwa [List.map_map] at hcloses

/-- How a computed column with an accepted expression is read.  In every select list it is read by
itself, as one entry more than its expression has commas outside of parentheses; so it is the one
entry that its alias names exactly if the expression has there neither a comma nor `AS`.  But with
any two expressions the check accepts both with a comma between them and both with `AS`. -/
theorem accepted_entries {aliasName : String} (h : validate scope aliases expression = .ok ())
    (hname : Name.isValid aliasName = true) :
    (∀ before after : List SelectItem, (∀ item ∈ before ++ after, item.Nested) →
      entries (SelectStatement.commaSeparated
          ((before ++ .expression expression aliasName :: after).map SelectItem.text)) =
        before.flatMap (fun item => entries item.text) ++
          entries (SelectItem.expression expression aliasName).text ++
          after.flatMap fun item => entries item.text) ∧
      (entries (SelectItem.expression expression aliasName).text).length =
        outerCommas expression + 1 ∧
      ((∃ entry, entries (SelectItem.expression expression aliasName).text = [entry] ∧
          IsNamed aliasName entry) ↔
        ∀ w ∈ outside 0 (words expression), w.kind ≠ .comma ∧ isAs w.token = false) ∧
      ∀ other, validate scope aliases other = .ok () →
        validate scope aliases (expression ++ ", " ++ other) = .ok () ∧
          validate scope aliases (expression ++ " AS " ++ other) = .ok () := by
  have hnested := nested_of_validate h hname
  have hcloses := hnested.matched expression rfl
  have hwords : words (SelectItem.expression expression aliasName).text =
      words expression ++ aliasWords (some aliasName) := hnested.toLegible.reads_text.words_eq
  refine ⟨?_, ?_, ?_, ?_⟩
  · -- in any select list: the entries around it are read as they are by themselves
    intro before after hothers
    have hall : ∀ item ∈ before ++ .expression expression aliasName :: after, item.Nested := by
      intro item hitem
      rw [List.forall_mem_append] at hothers
      rcases List.mem_append.mp hitem with hbefore | hbehind
      · exact hothers.1 item hbefore
      · rcases List.mem_cons.mp hbehind with rfl | hafter
        · exact hnested
        · exact hothers.2 item hafter
    rw [entries_commaSeparated (by simp) hall, List.flatMap_append, List.flatMap_cons,
      List.append_assoc]
  · -- how many entries it is read as
    rw [entries, hwords, outerCommas]
    exact length_entriesAt_aliased hcloses (some aliasName)
  · -- when it is the entry of its alias
    rw [entries, hwords]
    exact isNamed_iff hcloses aliasName
  · -- a comma or `AS` between two expressions passes the check
    intro other hother
    exact ⟨validate_comma h hother, validate_as h hother⟩

/-- Two columns with a comma between them, where one expression is expected. -/
def listSample : String := "id, city"

/-- The sample is read as two entries, and neither is the one its alias should name. -/
theorem listSample_entries :
    validate (Scope.ofNames ["id", "city"]) [] listSample = .ok () ∧
      (entries (SelectItem.expression listSample "place").text).length = 2 ∧
      ¬∃ entry, entries (SelectItem.expression listSample "place").text = [entry] ∧
        IsNamed "place" entry := by
  have hok : validate (Scope.ofNames ["id", "city"]) [] listSample = .ok () := by decide +kernel
  have hcommas : outerCommas listSample = 1 := by decide +kernel
  have hname : Name.isValid "place" = true := by decide
  obtain ⟨-, hlength, -, -⟩ := accepted_entries hok hname
  rw [hcommas] at hlength
  refine ⟨hok, hlength, ?_⟩
  -- two entries are not one
  rintro ⟨entry, hentry, -⟩
  rw [hentry] at hlength
  simp at hlength

end Expression

/-! ## Compiled select lists -/

namespace Query

variable {settings : Settings} {catalog : Catalog} {scope : Scope} {q : Query}
  {s : SelectStatement}

/-- The entries of a statement with validated expressions can be read, and their parentheses
match. -/
theorem CompilesTo.nested (h : q.CompilesTo settings catalog scope s)
    (hp : settings.expressionPolicy = .validated) : ∀ item ∈ s.items, item.Nested := by
  intro item hitem
  have hlegible := h.legible (.inl hp)
  refine ⟨⟨fun name hname => ?_, hlegible.items item hitem⟩, fun text htext => ?_⟩
  · exact hlegible.names name (SelectStatement.mem_names_of_item hitem hname)
  · have hmem : text ∈ s.items.filterMap SelectItem.expression? :=
      List.mem_filterMap.mpr ⟨item, hitem, htext⟩
    -- an expression of the statement is one of the query, and so has been checked
    rw [h.expressions_eq] at hmem
    obtain ⟨c, hc, rfl⟩ := List.mem_map.mp hmem
    obtain ⟨known, -, haccepts⟩ := h.expression_accepted hp c hc
    rw [words, List.map_map]
    exact (Expression.accepts_iff.mp haccepts).1

/-- The select list of a statement with validated expressions is read as its entries, and for each
comma outside of parentheses in an expression as one more. -/
theorem compile_entries (h : q.compile settings catalog = .ok s)
    (hp : settings.expressionPolicy = .validated) (hne : s.items ≠ []) :
    (entries s.itemsText).length =
      (q.expressionColumns.map fun c => outerCommas c.expression).sum + s.items.length := by
  obtain ⟨scope, hc⟩ := compile_eq_ok_iff.mp h
  have hlist : s.itemsText = SelectStatement.commaSeparated (s.items.map SelectItem.text) := by
    rw [SelectStatement.itemsText, if_neg (by simpa using hne)]
  rw [hlist, length_entries_commaSeparated hne (hc.nested hp), hc.expressions_eq, List.map_map]
  rfl

end Query

end DashQuery
