import DashQuery.Proofs.Statement.Vocabulary

/-!
# Which value a placeholder binds

A statement is run with a list of values; the database gives the n-th one to the
n-th placeholder.  Here the values are put in place of the placeholders of a whole
statement, and every value comes to stand in the condition that it was given in.
Nothing around the predicate can shift them: names hold no quote, keywords and
numbers no placeholder, and expressions were read token by token.

## Key results

- `Query.CompilesTo.shows_of`: a statement is its filters with text around them
- `Query.compile_binds`: every placeholder binds the value it was written for
-/

namespace DashQuery

/-- A word that can be neither a placeholder nor the end of a statement. -/
def Word.IsHarmless (w : Word) : Prop :=
  w.kind ≠ .semicolon ∧ w.kind ≠ .comment ∧ w.kind ≠ .illegal

/-- The compiler's own words are harmless, and so are quoted names. -/
theorem Word.IsListed.isHarmless {vocabulary : List String} {quotable : String → Prop} {w : Word}
    (h : w.IsListed vocabulary quotable) : w.IsHarmless := by
  unfold IsListed at h
  unfold IsHarmless
  cases hk : w.kind <;> simp_all

/-- Among placeholders and harmless words the illegal ones are the placeholders. -/
theorem Word.isIllegal_eq {w : Word} (h : w = .placeholder ∨ w.IsHarmless) :
    (w.kind == .illegal) = (w == .placeholder) := by
  rcases h with rfl | hharmless
  · rfl
  · have hne : w ≠ .placeholder := fun heq => hharmless.2.2 (congrArg Word.kind heq)
    rw [beq_eq_false_iff_ne.mpr hne, beq_eq_false_iff_ne]
    exact hharmless.2.2

namespace Query

variable {settings : Settings} {catalog : Catalog} {scope : Scope} {q : Query}
  {s : SelectStatement}

/-- The words of computed columns are harmless, if they were validated or there are none. -/
theorem CompilesTo.expressions_harmless (h : q.CompilesTo settings catalog scope s)
    (hp : settings.expressionPolicy = .validated ∨ q.expressionColumns = []) :
    ∀ text ∈ s.items.filterMap SelectItem.expression?, ∀ w ∈ words text, w.IsHarmless := by
  rw [h.expressions_eq]
  intro text htext w hw
  obtain ⟨c, hc, rfl⟩ := List.mem_map.mp htext
  obtain ⟨t, ht, rfl⟩ := List.mem_map.mp hw
  rcases hp with hp | hp
  · -- an accepted token is none of the harmful ones
    obtain ⟨known, -, haccepts⟩ := h.expression_accepted hp c hc
    exact haccepts.kind_ne t ht
  · rw [hp] at hc
    cases hc

/-- A compiled statement, with its values in place, is its filters with other words around, none of
which can take a value if those of the select list cannot. -/
theorem CompilesTo.shows_of {P : Word → Prop} {items : List Word}
    (h : q.CompilesTo settings catalog scope s) (hitems : Reads s.itemsText items)
    (hwords : ∀ w ∈ items, P w) (hharmless : ∀ w, w.IsHarmless → P w)
    (hopen : ¬ P Word.placeholder) :
    ∃ before after : List Word, (∀ w ∈ before ++ after, P w) ∧
      (BoundText.mk s.text s.params).Shows
        (before.map Slot.fixed ++ q.filterSlots scope ++ after.map Slot.fixed) := by
  -- the statement is read as select list and tables, `WHERE`, the filters, and the rest
  obtain ⟨keyword, haround, hkeyword⟩ :=
    s.flatten_eq_around ((Word.keyword "SELECT" :: items) :: s.tableWords)
  have hreads := SelectStatement.reads_text_of_items h.names_valid h.predicate_closed hitems
  have hshows := shows_predicate h.predicate
  have hlisted : ∀ w : Word, (w.IsListed vocabulary fun name =>
      Name.isValid name = true ∧ q.MayQuote catalog scope name) → P w := fun w hw =>
    hharmless w hw.isHarmless
  -- up to the filters
  have hbefore : ∀ w ∈ ((Word.keyword "SELECT" :: items) :: s.tableWords).flatten ++ keyword,
      P w := by
    intro w hw
    rw [List.flatten_cons, List.mem_append, List.mem_append, List.mem_cons] at hw
    -- `SELECT`, the select list, the tables, `WHERE`
    rcases hw with ((rfl | hw) | hw) | hw
    · exact hlisted _ (Word.isListed_keyword.mpr (by decide))
    · exact hwords w hw
    · exact hlisted w (SelectStatement.tableWords_listed h.names_checked w hw)
    · rw [List.mem_singleton.mp (hkeyword hw)]
      exact hlisted _ (Word.isListed_keyword.mpr (by decide))
  -- behind the filters
  have hafter : ∀ w ∈ s.trailingWords.flatten, P w := fun w hw =>
    hlisted w (SelectStatement.trailingWords_listed h.names_checked w hw)
  -- a fixed word that is no placeholder waits for no value
  have hfilled : ∀ {ws : List Word}, (∀ w ∈ ws, P w) →
      ∀ slot ∈ ws.map Slot.fixed, slot.isOpen = false := by
    intro ws hws slot hslot
    obtain ⟨w, hw, rfl⟩ := List.mem_map.mp hslot
    exact Slot.isOpen_fixed_eq_false_iff.mpr fun heq => hopen (heq ▸ hws w hw)
  refine ⟨_, _, List.forall_mem_append.mpr ⟨hbefore, hafter⟩, ?_, ?_, ?_, ?_⟩
  · rw [List.map_append, List.map_append, Slot.map_written_fixed, Slot.map_written_fixed,
      ← hshows.reads.words_eq, ← haround]
    exact hreads
  · rw [List.filterMap_append, List.filterMap_append, Slot.filterMap_param?_fixed,
      Slot.filterMap_param?_fixed, List.nil_append, List.append_nil]
    exact hshows.params
  · exact List.forall_mem_append.mpr
      ⟨List.forall_mem_append.mpr ⟨hfilled hbefore, hshows.filled⟩, hfilled hafter⟩
  · intro hnil
    simp at hnil

/-- A compiled statement, with its values in place, is its filters with harmless words around. -/
theorem CompilesTo.shows (h : q.CompilesTo settings catalog scope s)
    (hp : settings.expressionPolicy = .validated ∨ q.expressionColumns = []) :
    ∃ before after : List Word, (∀ w ∈ before ++ after, w.IsHarmless) ∧
      (BoundText.mk s.text s.params).Shows
        (before.map Slot.fixed ++ q.filterSlots scope ++ after.map Slot.fixed) := by
  refine h.shows_of (h.legible hp).reads_items (fun w hw => ?_) (fun _ hw => hw)
    fun hplaceholder => hplaceholder.2.2 rfl
  rcases SelectStatement.itemsWords_listed h.names_checked w hw with hlisted | ⟨text, htext, hword⟩
  · exact hlisted.isHarmless
  · exact h.expressions_harmless hp text htext w hword

/-- The words of a predicate are harmless or placeholders. -/
theorem CompilesTo.filterSlots_harmless (h : q.CompilesTo settings catalog scope s) :
    ∀ slot ∈ q.filterSlots scope, slot.written = .placeholder ∨ slot.written.IsHarmless := by
  intro slot hslot
  have hlisted := filterSlots_listed h.scope_eq h.predicate slot hslot
  cases slot with
  | value p => exact .inl rfl
  | fixed w =>
    have hword : w.IsListed innerKeywords fun name =>
        Name.isValid name = true ∧ q.MayQuote catalog scope name := hlisted
    exact .inr hword.isHarmless

/-- The tokens of a compiled statement are harmless or placeholders. -/
theorem CompilesTo.tokens_harmless (h : q.CompilesTo settings catalog scope s)
    (hp : settings.expressionPolicy = .validated ∨ q.expressionColumns = []) :
    ∀ t ∈ Token.scan s.text, t.word = .placeholder ∨ t.word.IsHarmless := by
  obtain ⟨before, after, haround, hshows⟩ := h.shows hp
  intro t ht
  have hmem : t.word ∈ words s.text := List.mem_map_of_mem ht
  rw [hshows.reads.words_eq] at hmem
  obtain ⟨slot, hslot, hword⟩ := List.mem_map.mp hmem
  rw [← hword]
  simp only [List.mem_append, List.mem_map] at hslot
  -- in front of the filters, in them, or behind
  rcases hslot with (⟨w, hw, rfl⟩ | hslot) | ⟨w, hw, rfl⟩
  · exact .inr (haround w (List.mem_append_left _ hw))
  · exact h.filterSlots_harmless slot hslot
  · exact .inr (haround w (List.mem_append_right _ hw))

/-- Every placeholder of a statement binds the value it was written for.  Nothing ends the statement
or hides a part of it, all that is illegal is placeholders, there are as many as values, and with
the values put in the statement is the query's filters, values in place, with fixed text around. -/
theorem compile_binds (h : q.compile settings catalog = .ok s)
    (hp : settings.expressionPolicy = .validated ∨ q.expressionColumns = []) :
    (∀ t ∈ Token.scan s.text, t.kind ≠ .semicolon ∧ t.kind ≠ .comment) ∧
      (∀ t ∈ Token.scan s.text, t.kind = .illegal → t.text = "?") ∧
      (Token.scan s.text).countP (fun t => t.kind == .illegal) = s.params.length ∧
      s.params = q.conditions.flatMap Condition.boundValues ∧
      ∃ (scope : Scope) (before after : List Word), q.scope catalog = .ok scope ∧
        Word.placeholder ∉ before ++ after ∧
        fill (words s.text) s.params =
          before.map Slot.fixed ++ q.filterSlots scope ++ after.map Slot.fixed := by
  obtain ⟨scope, hc⟩ := compile_eq_ok_iff.mp h
  obtain ⟨before, after, haround, hshows⟩ := hc.shows hp
  have htoken := hc.tokens_harmless hp
  -- among these tokens the illegal ones are the placeholders, so they can be counted as words
  have hkind : ∀ t ∈ Token.scan s.text, (t.kind == .illegal) = (t.word == .placeholder) :=
    fun t ht => Word.isIllegal_eq (htoken t ht)
  refine ⟨fun t ht => ?_, fun t ht hk => ?_, ?_, hc.params_eq, scope, before, after,
    hc.scope_eq, ?_, hshows.fill_words⟩
  · -- no second statement and no comment
    rcases htoken t ht with heq | hharmless
    · have hillegal : t.kind = .illegal := congrArg Word.kind heq
      simp [hillegal]
    · exact ⟨hharmless.1, hharmless.2.1⟩
  · -- what is illegal is a placeholder
    rcases htoken t ht with heq | hharmless
    · exact congrArg Word.text heq
    · exact absurd hk hharmless.2.2
  · -- as many as there are values
    have hcount := hshows.count_words
    rw [words, List.count, List.countP_map] at hcount
    rw [List.countP_congr fun t ht => by rw [hkind t ht]]
    exact hcount
  · exact fun hmem => (haround _ hmem).2.2 rfl

/-- The sample with a validated column that holds a question mark in a literal. -/
def labelledSample : Query :=
  { sample with expressionColumns := [⟨"COALESCE(orders.city, 'who?')", "place"⟩] }

/-- The default settings for queries of end users. -/
def endUserSettings : Settings := { Settings.default with expressionPolicy := .validated }

/-- A question mark in a literal is not counted. -/
theorem labelledSample_binds :
    ∃ s, labelledSample.compile endUserSettings sampleCatalog = .ok s ∧
      (Token.scan s.text).countP (fun t => t.kind == .illegal) = s.params.length ∧
      s.params = [.text "a?", .text "b", .int 1, .int 9] := by
  have hok : (labelledSample.compile endUserSettings sampleCatalog).isOk = true := by
    decide +kernel
  cases h : labelledSample.compile endUserSettings sampleCatalog with
  | error e =>
    rw [h] at hok
    cases hok
  | ok s =>
    obtain ⟨-, -, hcount, hparams, -⟩ := compile_binds h (.inl rfl)
    exact ⟨s, rfl, hcount, hparams⟩

end Query

end DashQuery
