import DashQuery.Proofs.Statement.Vocabulary

/-!
# The page of a statement

A statement ends in the number of rows it gives at most and, if that was asked for, in
the number of rows it passes over.  Both are 64-bit words without sign, while the
database takes integers with sign in these places.  An offset is checked against that
bound.  A limit is only brought down to the largest one of the settings, so it keeps
the bound for every request exactly if that one does.

## Key results

- `pageText_inj`: the end of a text tells limit and offset
- `SelectStatement.text_eq_append`: a statement ends in its page
- `Query.CompilesTo.withLimit`: a query that compiles does so for every limit
- `Query.compile_pagination`: how a compiled statement ends, and when the database takes it
-/

namespace DashQuery

/-! ## The end of a text -/

/-- Texts that end in words without blanks end in the same word only if the rest is the same. -/
theorem append_word_inj {a b u v : String} (hu : ' ' ∉ u.toList) (hv : ' ' ∉ v.toList)
    (h : a ++ " " ++ u = b ++ " " ++ v) : a = b ∧ u = v := by
  have hlists := congrArg String.toList h
  simp only [String.toList_append, List.append_assoc] at hlists
  obtain ⟨hab, huv⟩ := append_cons_inj_of_not_mem_right hu hv hlists
  exact ⟨String.ext hab, String.ext huv⟩

/-- The digits of a number tell it. -/
theorem toString_inj {m n : Nat} (h : toString m = toString n) : m = n := by
  have hdigits : Nat.toDigits 10 m = Nat.toDigits 10 n := by
    rw [← toList_toString, ← toList_toString, h]
  calc m = Nat.ofDigitChars 10 (Nat.toDigits 10 m) 0 :=
        (Nat.ofDigitChars_toDigits (by decide) (by decide)).symm
    _ = Nat.ofDigitChars 10 (Nat.toDigits 10 n) 0 := by rw [hdigits]
    _ = n := Nat.ofDigitChars_toDigits (by decide) (by decide)

/-- A number at the end of a text, behind a blank, can be told from the text. -/
theorem append_number_inj {a b : String} {m n : Nat}
    (h : a ++ " " ++ toString m = b ++ " " ++ toString n) : a = b ∧ m = n := by
  have hblank : ∀ k : Nat, ' ' ∉ (toString k).toList := fun k hmem =>
    absurd (isDigit_of_mem_toString hmem) (by decide)
  obtain ⟨hab, hmn⟩ := append_word_inj (hblank m) (hblank n) h
  exact ⟨hab, toString_inj hmn⟩

/-- The text with which a page is asked for: at most so many rows, perhaps behind some others. -/
def pageText (limit : Nat) : Option Nat → String
  | none => " LIMIT " ++ toString limit
  | some offset => " LIMIT " ++ toString limit ++ " OFFSET " ++ toString offset

/-- A page without an offset ends in its limit. -/
theorem append_pageText_none (a : String) (limit : Nat) :
    a ++ pageText limit none = a ++ " " ++ "LIMIT" ++ " " ++ toString limit := by
  simp only [pageText, String.append_assoc]
  rfl

/-- A page with an offset is the one without it, and the offset. -/
theorem append_pageText_some (a : String) (limit offset : Nat) :
    a ++ pageText limit (some offset) =
      a ++ pageText limit none ++ " " ++ "OFFSET" ++ " " ++ toString offset := by
  simp only [pageText, String.append_assoc]
  rfl

/-- A text without an offset is not one with an offset. -/
theorem append_pageText_none_ne {a b : String} {limit limit' offset : Nat} :
    a ++ pageText limit none ≠ b ++ pageText limit' (some offset) := by
  intro h
  -- the words in front of the last numbers differ
  rw [append_pageText_none, append_pageText_some] at h
  have hword := (append_word_inj (by decide) (by decide) (append_number_inj h).1).2
  exact absurd hword (by decide)

/-- The end of a text tells limit and offset, and whether there is one. -/
theorem pageText_inj {a b : String} {limit limit' : Nat} {offset offset' : Option Nat}
    (h : a ++ pageText limit offset = b ++ pageText limit' offset') :
    limit = limit' ∧ offset = offset' := by
  have hlimit : ∀ {a b : String}, a ++ pageText limit none = b ++ pageText limit' none →
      limit = limit' := fun {a b} hnone => by
    rw [append_pageText_none, append_pageText_none] at hnone
    exact (append_number_inj hnone).2
  cases offset with
  | none =>
    cases offset' with
    | none => exact ⟨hlimit h, rfl⟩
    | some m => exact absurd h append_pageText_none_ne
  | some m =>
    cases offset' with
    | none => exact absurd h.symm append_pageText_none_ne
    | some m' =>
      -- take the offset off, then its word
      rw [append_pageText_some, append_pageText_some] at h
      obtain ⟨hfront, rfl⟩ := append_number_inj h
      exact ⟨hlimit (append_word_inj (by decide) (by decide) hfront).1, rfl⟩

namespace SelectStatement

/-- The last two clauses are the page. -/
theorem intercalate_page (s : SelectStatement) :
    " " ++ " ".intercalate (["LIMIT " ++ toString s.limit.toNat] ++ s.offsetClause) =
      pageText s.limit.toNat (s.offset.map UInt64.toNat) := by
  unfold offsetClause
  cases s.offset with
  -- the limit alone
  | none =>
    rw [List.append_nil, String.intercalate_singleton]
    exact String.ext (by simp [pageText])
  -- the limit and the offset
  | some m =>
    rw [List.singleton_append, String.intercalate_cons_cons, String.intercalate_singleton]
    exact String.ext (by simp [pageText])

/-- A statement ends in its page. -/
theorem text_eq_append (s : SelectStatement) :
    ∃ front, s.text = front ++ pageText s.limit.toNat (s.offset.map UInt64.toNat) := by
  refine ⟨" ".intercalate (["SELECT " ++ s.itemsText, "FROM " ++ Name.quote s.source] ++
    s.joins.map JoinClause.text ++ s.whereClause ++
    listClause "GROUP BY" (s.groupBy.map ColumnRef.text) ++
    listClause "ORDER BY" (s.orderBy.map SortTerm.text)), ?_⟩
  rw [text, clauses, List.append_assoc, String.intercalate_append_of_ne_nil (by simp) (by simp),
    String.append_assoc, intercalate_page]

/-- The text of a statement ends in one page only, its own. -/
theorem endsIn_pageText_iff {s : SelectStatement} {limit : Nat} {offset : Option Nat} :
    (∃ front, s.text = front ++ pageText limit offset) ↔
      limit = s.limit.toNat ∧ offset = s.offset.map UInt64.toNat := by
  obtain ⟨front, htext⟩ := s.text_eq_append
  constructor
  · rintro ⟨front', htext'⟩
    exact pageText_inj (htext'.symm.trans htext)
  · rintro ⟨rfl, rfl⟩
    exact ⟨front, htext⟩

/-- Limit and offset are integers that the database takes. -/
structure HasValidPage (s : SelectStatement) : Prop where
  limit : s.limit.toNat ≤ maxOffset
  offset : ∀ m ∈ s.offset, m.toNat ≤ maxOffset

end SelectStatement

/-! ## The page of a query -/

/-- An offset is kept as it is, or refused because it is too large. -/
theorem checkOffset_eq_ok_iff {requested offset : Option UInt64} :
    checkOffset requested = .ok offset ↔
      offset = requested ∧ ∀ m ∈ requested, m.toNat ≤ maxOffset := by
  unfold checkOffset
  cases requested with
  | none => simp [eq_comm]
  | some m =>
    by_cases hm : m.toNat > maxOffset
    · simp [hm]
    · simp [hm, Nat.le_of_not_gt hm, eq_comm]

namespace Query

variable {settings : Settings} {catalog : Catalog} {scope : Scope} {q : Query}
  {s : SelectStatement}

/-- How many rows a query gives at most: what it asks for, or else the default, but never more than
the largest limit. -/
def rowLimit (settings : Settings) (q : Query) : Nat :=
  min (q.limit.getD settings.defaultLimit).toNat settings.maxLimit.toNat

/-- The limit of a compiled statement is that of its query. -/
theorem CompilesTo.limit_toNat (h : q.CompilesTo settings catalog scope s) :
    s.limit.toNat = q.rowLimit settings := by
  rw [h.limit, Settings.effectiveLimit_toNat, rowLimit]

/-- The page of a compiled statement is valid exactly if its limit is small enough. -/
theorem CompilesTo.hasValidPage_iff (h : q.CompilesTo settings catalog scope s) :
    s.HasValidPage ↔ q.rowLimit settings ≤ maxOffset := by
  obtain ⟨hoffset, hbound⟩ := checkOffset_eq_ok_iff.mp h.offset
  rw [← h.limit_toNat]
  exact ⟨fun hvalid => hvalid.limit, fun hlimit => ⟨hlimit, hoffset ▸ hbound⟩⟩

/-- A query that compiles does so for every limit. -/
theorem CompilesTo.withLimit (h : q.CompilesTo settings catalog scope s) (limit : Option UInt64) :
    { q with limit := limit }.CompilesTo settings catalog scope
      { s with limit := settings.effectiveLimit limit } :=
  { h with limit := rfl }

/-- Whatever limit is asked for, the page is valid, exactly if the largest limit is small enough. -/
theorem CompilesTo.forall_hasValidPage_iff (h : q.CompilesTo settings catalog scope s) :
    (∀ (limit : Option UInt64) (s' : SelectStatement),
      { q with limit := limit }.compile settings catalog = .ok s' → s'.HasValidPage) ↔
        settings.maxLimit.toNat ≤ maxOffset := by
  constructor
  · intro hall
    -- the largest limit is among those that can be asked for
    have hlargest := h.withLimit (some settings.maxLimit)
    have hvalid := hall _ _ (compile_eq_ok_iff.mpr ⟨scope, hlargest⟩)
    simpa only [rowLimit, Option.getD_some, Nat.min_self] using hlargest.hasValidPage_iff.mp hvalid
  · intro hmax limit s' hs'
    obtain ⟨scope', hc⟩ := compile_eq_ok_iff.mp hs'
    exact hc.hasValidPage_iff.mpr (Nat.le_trans (Nat.min_le_right _ _) hmax)

/-- How a compiled statement ends.  It ends in one page only: the limit is the smaller one of the
largest limit and of the limit asked for, or else the default one, and the offset is the one asked
for, if any.  The offset is an integer that the database takes.  The limit is such an integer
exactly if the one asked for or the largest one is; for all limits that can be asked for it is
exactly if the largest one is. -/
theorem compile_pagination (h : q.compile settings catalog = .ok s) :
    (∀ (limit : Nat) (offset : Option Nat), (∃ front, s.text = front ++ pageText limit offset) ↔
      limit = min (q.limit.getD settings.defaultLimit).toNat settings.maxLimit.toNat ∧
        offset = q.offset.map UInt64.toNat) ∧
    (∀ m ∈ q.offset, m.toNat ≤ maxOffset) ∧
    (s.HasValidPage ↔ (q.limit.getD settings.defaultLimit).toNat ≤ maxOffset ∨
      settings.maxLimit.toNat ≤ maxOffset) ∧
    ((∀ (limit : Option UInt64) (s' : SelectStatement),
      { q with limit := limit }.compile settings catalog = .ok s' → s'.HasValidPage) ↔
        settings.maxLimit.toNat ≤ maxOffset) := by
  obtain ⟨scope, hc⟩ := compile_eq_ok_iff.mp h
  obtain ⟨hoffset, hbound⟩ := checkOffset_eq_ok_iff.mp hc.offset
  refine ⟨fun limit offset => ?_, hbound, ?_, hc.forall_hasValidPage_iff⟩
  · -- the one page that the text ends in
    rw [SelectStatement.endsIn_pageText_iff, hc.limit_toNat, hoffset, rowLimit]
  · -- the smaller one of two limits is small if one of them is
    rw [hc.hasValidPage_iff, rowLimit]
    omega

/-- Settings that bring no limit down. -/
def openSettings : Settings := { Settings.default with maxLimit := 0xFFFFFFFFFFFFFFFF }

/-- A query for more rows than a signed integer counts. -/
def largeSample : Query := { sample with limit := some 0x8000000000000000 }

/-- A limit that the database does not take, under settings that can be given, and one that it
takes. -/
theorem largeSample_pagination :
    (∃ s, largeSample.compile openSettings sampleCatalog = .ok s ∧
      (∃ front, s.text = front ++ " LIMIT 9223372036854775808") ∧ ¬s.HasValidPage) ∧
    Settings.ofJson? (.obj [("max_limit", .int 18446744073709551615)]) = some openSettings ∧
    ∃ s, sample.compile Settings.default sampleCatalog = .ok s ∧
      (∃ front, s.text = front ++ " LIMIT 5") ∧ s.HasValidPage := by
  refine ⟨?_, rfl, ?_⟩
  · -- the limit asked for is above the largest integer
    have h : ∃ s, largeSample.compile openSettings sampleCatalog = .ok s := ⟨_, rfl⟩
    obtain ⟨s, hs⟩ := h
    obtain ⟨hends, -, hvalid, -⟩ := compile_pagination hs
    refine ⟨s, hs, (hends 9223372036854775808 none).mpr ⟨by decide, rfl⟩, ?_⟩
    rw [hvalid]
    decide
  · -- under the default settings
    have h : ∃ s, sample.compile Settings.default sampleCatalog = .ok s := ⟨_, rfl⟩
    obtain ⟨s, hs⟩ := h
    obtain ⟨hends, -, hvalid, -⟩ := compile_pagination hs
    exact ⟨s, hs, (hends 5 none).mpr ⟨by decide, rfl⟩, hvalid.mpr (by decide)⟩

end Query

end DashQuery
