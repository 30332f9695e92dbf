import DashQuery.Proofs.Statement.Binding

/-!
# Binding beside trusted expressions

Under the trusting policy each expression is only looked at by itself: it must not
hold a placeholder outside its literals.  That protects the binding as long as no
expression leaves a literal open.  Otherwise a literal that one expression opens
may be closed by a later one, and what stood inside of a literal in each of them
stands outside in the select list; then the placeholders that come to light there
are in addition to those that have values.

## Key results

- `Query.CompilesTo.count_placeholder`: the placeholders of a statement, where its select list
  closes its literals
- `Query.compile_trusted_binds`: when a trusting compilation binds as it should
-/

namespace DashQuery

/-- A text leaves a literal open as a list of tokens if it does as a list of words. -/
theorem forall_isUnclosed_iff {text : String} :
    (∀ w ∈ words text, w.isUnclosed = false) ↔ ∀ t ∈ Token.scan text, t.isUnclosed = false := by
  rw [words, List.forall_mem_map]
  rfl

namespace Expression

/-- A token is a placeholder if its word is. -/
theorem isPlaceholder_eq (t : Token) : isPlaceholder t = (t.word == .placeholder) := by
  rw [Bool.eq_iff_iff, isPlaceholder, Bool.and_eq_true, beq_iff_eq, beq_iff_eq, beq_iff_eq]
  simp [Token.word, Word.placeholder]

/-- Placeholders are counted by their words. -/
theorem countP_isPlaceholder (text : String) :
    (Token.scan text).countP isPlaceholder = (words text).count .placeholder := by
  rw [words, List.count, List.countP_map]
  exact List.countP_congr fun t _ => by rw [isPlaceholder_eq]; rfl

/-- A trusted expression passes exactly if none of its words is a placeholder. -/
theorem checkPlaceholders_eq_ok_iff {expression : String} :
    checkPlaceholders expression = .ok () ↔ Word.placeholder ∉ words expression := by
  have hany : (Token.scan expression).any isPlaceholder = true ↔
      Word.placeholder ∈ words expression := by
    rw [List.any_eq_true, words, List.mem_map]
    simp only [isPlaceholder_eq, beq_iff_eq]
  rw [checkPlaceholders, ← hany]
  split
  · next h => simp [h]
  · next h => simp [h]

end Expression

namespace Query

variable {settings : Settings} {catalog : Catalog} {scope : Scope} {q : Query}
  {s : SelectStatement}

/-- A trusted expression holds no placeholder, read by itself. -/
theorem CompilesTo.expression_trusted (h : q.CompilesTo settings catalog scope s)
    (hp : settings.expressionPolicy = .trusted) :
    ∀ c ∈ q.expressionColumns, Word.placeholder ∉ words c.expression := by
  intro c hc
  obtain ⟨-, known, hcheck, -⟩ := expressionColumns_checked h.items c hc
  rw [hp] at hcheck
  exact Expression.checkPlaceholders_eq_ok_iff.mp hcheck

/-- A statement whose trusted expressions leave no literal open, with its values in place, is its
filters with words around that take no value. -/
theorem CompilesTo.shows_trusted (h : q.CompilesTo settings catalog scope s)
    (hp : settings.expressionPolicy = .trusted)
    (hclosed : ∀ c ∈ q.expressionColumns, ∀ w ∈ words c.expression, w.isUnclosed = false) :
    ∃ before after : List Word, (∀ w ∈ before ++ after, w ≠ Word.placeholder) ∧
      (BoundText.mk s.text s.params).Shows
        (before.map Slot.fixed ++ q.filterSlots scope ++ after.map Slot.fixed) := by
  have hharmless : ∀ w : Word, w.IsHarmless → w ≠ Word.placeholder := by
    rintro w hw rfl
    exact hw.2.2 rfl
  refine h.shows_of (h.legible_of_closed hclosed).reads_items (fun w hw => ?_) hharmless
    fun hne => hne rfl
  -- the words of the select list are the compiler's own or those of an expression
  rcases SelectStatement.itemsWords_listed h.names_checked w hw with hlisted | ⟨text, htext, hword⟩
  · exact hharmless w hlisted.isHarmless
  · rw [h.expressions_eq] at htext
    obtain ⟨c, hc, rfl⟩ := List.mem_map.mp htext
    rintro rfl
    exact h.expression_trusted hp c hc hword

/-- If the select list as a whole leaves no literal open, its placeholders are in addition to those
that have values. -/
theorem CompilesTo.count_placeholder (h : q.CompilesTo settings catalog scope s)
    (hclosed : ∀ w ∈ words s.itemsText, w.isUnclosed = false) :
    (words s.text).count .placeholder =
      (words s.itemsText).count .placeholder + s.params.length := by
  -- none of the words that the compiler writes is a placeholder
  have hnone : ∀ {ws : List Word}, (∀ w ∈ ws, w.IsListed vocabulary fun name =>
      Name.isValid name = true ∧ q.MayQuote catalog scope name) →
        ws.count Word.placeholder = 0 := fun hlisted =>
    List.count_eq_zero.mpr fun hmem => (hlisted _ hmem).isHarmless.2.2 rfl
  have hreads := SelectStatement.reads_text_of_items h.names_valid h.predicate_closed
    (reads_of_closed hclosed)
  obtain ⟨keyword, haround, hkeyword⟩ :=
    s.flatten_eq_around ((Word.keyword "SELECT" :: words s.itemsText) :: s.tableWords)
  have hwhere : keyword.count Word.placeholder = 0 := List.count_eq_zero.mpr fun hmem => by
    simpa [Word.keyword, Word.placeholder] using hkeyword hmem
  have hselect : Word.keyword "SELECT" ≠ Word.placeholder := by decide
  -- in the filters there is one for each value
  have hpredicate : (words s.predicate.text).count Word.placeholder = s.params.length :=
    (shows_predicate h.predicate).count_words
  rw [hreads.words_eq, haround]
  simp only [List.flatten_cons, List.count_append, List.count_cons_of_ne hselect, hwhere,
    hpredicate, hnone (SelectStatement.tableWords_listed h.names_checked),
    hnone (SelectStatement.trailingWords_listed h.names_checked), Nat.add_zero]

/-- What a trusting compilation binds.  If no expression leaves a literal open, the statement has as
many placeholders as values, and with the values put in it is the query's filters, values in place,
with fixed text around.  If only the select list as a whole leaves none open, the placeholders that
come to light in the select list are in addition. -/
theorem compile_trusted_binds (h : q.compile settings catalog = .ok s)
    (hp : settings.expressionPolicy = .trusted) :
    ((∀ c ∈ q.expressionColumns, ∀ t ∈ Token.scan c.expression, t.isUnclosed = false) →
      (Token.scan s.text).countP Expression.isPlaceholder = s.params.length ∧
        s.params = q.conditions.flatMap Condition.boundValues ∧
        ∃ (scope : Scope) (before after : List Word), q.scope catalog = .ok scope ∧
          Word.placeholder ∉ before ++ after ∧
          fill (words s.text) s.params =
            before.map Slot.fixed ++ q.filterSlots scope ++ after.map Slot.fixed) ∧
      ((∀ t ∈ Token.scan s.itemsText, t.isUnclosed = false) →
        (Token.scan s.text).countP Expression.isPlaceholder =
          (Token.scan s.itemsText).countP Expression.isPlaceholder + s.params.length) := by
  obtain ⟨scope, hc⟩ := compile_eq_ok_iff.mp h
  simp only [Expression.countP_isPlaceholder, ← forall_isUnclosed_iff]
  refine ⟨fun hclosed => ?_, hc.count_placeholder⟩
  -- the filters with fixed words around
  obtain ⟨before, after, haround, hshows⟩ := hc.shows_trusted hp hclosed
  exact ⟨hshows.count_words, hc.params_eq, scope, before, after, hc.scope_eq,
    fun hmem => haround _ hmem rfl, hshows.fill_words⟩

/-- The sample with a trusted column that holds a question mark in a literal. -/
def quotedSample : Query :=
  { sample with expressionColumns := [⟨"city || ' where?'", "place"⟩] }

/-- A query with two trusted columns, each of which leaves a literal open. -/
def shiftedSample : Query where
  sourceTable := "orders"
  columns := []
  expressionColumns := [⟨"'", "a"⟩, ⟨"', ?", "b"⟩]
  joins := []
  filters := some (.list [.condition ⟨"id", "=", .int 1⟩])
  groupBy := []
  orderBy := []
  limit := none
  offset := none

/-- A placeholder in a literal is none; two halves of a literal bring one to light. -/
theorem shiftedSample_binds :
    (∃ s, quotedSample.compile Settings.default sampleCatalog = .ok s ∧
        (Token.scan s.text).countP Expression.isPlaceholder = s.params.length) ∧
      ∃ s, shiftedSample.compile Settings.default sampleCatalog = .ok s ∧
        s.params.length = 1 ∧ (Token.scan s.text).countP Expression.isPlaceholder = 2 := by
  constructor
  · -- a question mark inside a literal
    have hok : (quotedSample.compile Settings.default sampleCatalog).isOk = true := by
      decide +kernel
    have hclosed : ∀ c ∈ quotedSample.expressionColumns, ∀ t ∈ Token.scan c.expression,
        t.isUnclosed = false := by decide +kernel
    cases h : quotedSample.compile Settings.default sampleCatalog with
    | error e =>
      rw [h] at hok
      cases hok
    | ok s => exact ⟨s, rfl, ((compile_trusted_binds h rfl).1 hclosed).1⟩
  · -- the literals that the two columns leave open close each other, and the mark stands outside
    have hitems : ∃ s ∈ (shiftedSample.compile Settings.default sampleCatalog).toOption,
        (∀ t ∈ Token.scan s.itemsText, t.isUnclosed = false) ∧ s.params.length = 1 ∧
          (Token.scan s.itemsText).countP Expression.isPlaceholder = 1 := by decide +kernel
    obtain ⟨s, hs, hclosed, hparams, hcount⟩ := hitems
    cases h : shiftedSample.compile Settings.default sampleCatalog with
    | error e =>
      rw [h] at hs
      cases hs
    | ok t =>
      rw [h] at hs
      obtain rfl : t = s := Option.some.inj hs
      refine ⟨t, rfl, hparams, ?_⟩
      rw [(compile_trusted_binds h rfl).2 hclosed, hcount, hparams]

end Query

end DashQuery
