import DashQuery.Proofs.Expression.Grammar
import DashQuery.Proofs.Statement.Words

/-!
# Expressions put together

Whether the check accepts an expression depends on its words only, not on the
places at which they stand.  So an expression can be made of words, and of two
accepted ones with something between them that is accepted everywhere: a comma or
a keyword.

## Key results

- `validate_eq_ok_iff_words`: the check, as a condition on the words
- `validate_comma`, `validate_as`: two expressions with a comma or `AS` between them
-/

namespace DashQuery

/-- A word as a token; the place is of no account. -/
def Word.token (w : Word) : Token := ⟨w.kind, w.text, 0⟩

/-- A word put at some place is the word that is read there. -/
theorem Word.word_token (w : Word) : w.token.word = w := rfl

/-- The place of a word does not change its content. -/
theorem Word.content_token (w : Word) : w.token.content = w.content := rfl

namespace Expression

variable {scope : Scope} {aliases : List String} {depth : Nat} {ts us : List Token}

/-! ## Places are of no account -/

/-- What comes next is told by the words alone. -/
theorem nextIs_congr (h : us.map Token.word = ts.map Token.word) (kind : TokenKind) :
    nextIs kind us = nextIs kind ts := by
  have hkinds : ∀ vs : List Token,
      nextIs kind vs = ((vs.map Token.word).head?.map Word.kind == some kind) := by
    intro vs
    cases vs <;> rfl
  rw [hkinds, hkinds, h]

/-- Two tokens that are the same word differ in their places only. -/
private theorem eq_of_word_eq {t u : Token} (h : u.word = t.word) :
    u = { t with start := u.start } := by
  cases t
  cases u
  obtain ⟨rfl, rfl⟩ := Word.mk.inj h
  rfl

/-- Whether tokens are accepted is told by their words alone. -/
theorem Accepts.congr (h : Accepts scope aliases depth ts)
    (hw : us.map Token.word = ts.map Token.word) : Accepts scope aliases depth us := by
  -- each token read ahead keeps its kind, so the other list takes the same step
  induction h generalizing us with
  | done =>
    rw [List.map_eq_nil_iff.mp hw]
    exact .done
  | keyword hn hk _ ih =>
    obtain ⟨u, us, rfl, hu, hus⟩ := List.map_eq_cons_iff.mp hw
    rw [eq_of_word_eq hu]
    exact .keyword hn hk (ih hus)
  | call hn hk hc hf _ ih =>
    obtain ⟨u, us, rfl, hu, hus⟩ := List.map_eq_cons_iff.mp hw
    rw [isCall, ← nextIs_congr hus] at hc
    rw [eq_of_word_eq hu]
    exact .call hn hk hc hf (ih hus)
  | bare hn hk hc hdot href _ ih =>
    obtain ⟨u, us, rfl, hu, hus⟩ := List.map_eq_cons_iff.mp hw
    rw [isCall, ← nextIs_congr hus] at hc
    rw [← nextIs_congr hus] at hdot
    rw [eq_of_word_eq hu]
    exact .bare hn hk hc hdot href (ih hus)
  | qualified hn hk hd hc href _ ih =>
    obtain ⟨u, us, rfl, hu, hus⟩ := List.map_eq_cons_iff.mp hw
    obtain ⟨v, us, rfl, hv, hus⟩ := List.map_eq_cons_iff.mp hus
    obtain ⟨x, us, rfl, hx, hus⟩ := List.map_eq_cons_iff.mp hus
    rw [eq_of_word_eq hu, eq_of_word_eq hv, eq_of_word_eq hx]
    exact .qualified hn hk hd hc href (ih hus)
  | leftParen hk _ ih =>
    obtain ⟨u, us, rfl, hu, hus⟩ := List.map_eq_cons_iff.mp hw
    exact .leftParen ((congrArg Word.kind hu).trans hk) (ih hus)
  | rightParen hk _ ih =>
    obtain ⟨u, us, rfl, hu, hus⟩ := List.map_eq_cons_iff.mp hw
    exact .rightParen ((congrArg Word.kind hu).trans hk) (ih hus)
  | free hk _ ih =>
    obtain ⟨u, us, rfl, hu, hus⟩ := List.map_eq_cons_iff.mp hw
    have hkind : u.kind = _ := congrArg Word.kind hu
    exact .free (hkind ▸ hk) (ih hus)

/-- An expression is accepted on account of its words. -/
theorem validate_eq_ok_iff_words {expression : String} :
    validate scope aliases expression = .ok () ↔
      words expression ≠ [] ∧ Accepts scope aliases 0 ((words expression).map Word.token) := by
  rw [validate_eq_ok_iff, words, ne_eq, ne_eq, List.map_eq_nil_iff]
  have hwords : (((Token.scan expression).map Token.word).map Word.token).map Token.word =
      (Token.scan expression).map Token.word := by
    rw [List.map_map, List.map_congr_left fun w _ => w.word_token, List.map_id']
  exact and_congr_right fun _ => ⟨fun h => h.congr hwords, fun h => h.congr hwords.symm⟩

/-- An accepted expression leaves no literal open, so more text may follow it. -/
theorem reads_of_validate {expression : String}
    (h : validate scope aliases expression = .ok ()) : Reads expression (words expression) := by
  refine reads_of_closed fun w hw => ?_
  obtain ⟨t, ht, rfl⟩ := List.mem_map.mp hw
  exact Word.isUnclosed_of_kind ((validate_eq_ok_iff.mp h).2.kind_ne t ht).2.2

/-! ## One expression behind another -/

/-- Tokens that do not begin with the kind looked for do not become what comes next. -/
theorem nextIs_append {kind : TokenKind} (h : nextIs kind us = false) :
    nextIs kind (ts ++ us) = nextIs kind ts := by
  cases ts with
  | nil => rw [List.nil_append, h]; rfl
  | cons t ts => rfl

/-- Tokens behind an expression change nothing in it unless they begin with a parenthesis or a dot,
which would make another unit of its last name. -/
theorem Accepts.append (h : Accepts scope aliases depth ts) (hu : Accepts scope aliases 0 us)
    (hparen : nextIs .leftParen us = false) (hdot : nextIs .dot us = false) :
    Accepts scope aliases depth (ts ++ us) := by
  -- unit by unit; only a name at the end looks at what stands behind it
  induction h with
  | done => exact hu
  | keyword hn hk _ ih => exact .keyword hn hk ih
  | call hn hk hc hf _ ih =>
    rw [List.cons_append]
    refine .call hn hk ?_ hf ih
    rwa [isCall, nextIs_append hparen]
  | bare hn hk hc hd href _ ih =>
    rw [List.cons_append]
    refine .bare hn hk ?_ ?_ href ih
    · rwa [isCall, nextIs_append hparen]
    · rwa [nextIs_append hdot]
  | qualified hn hk hd hc href _ ih => exact .qualified hn hk hd hc href ih
  | leftParen hk _ ih => exact .leftParen hk ih
  | rightParen hk _ ih => exact .rightParen hk ih
  | free hk _ ih => exact .free hk ih

/-- Two accepted expressions around a word that is accepted before any other are accepted. -/
private theorem validate_around {a b text : String} {w : Word}
    (ha : validate scope aliases a = .ok ()) (hb : validate scope aliases b = .ok ())
    (hwords : words text = words a ++ w :: words b)
    (hw : ∀ {ts : List Token}, Accepts scope aliases 0 ts →
      Accepts scope aliases 0 (w.token :: ts))
    (hparen : w.kind ≠ .leftParen) (hdot : w.kind ≠ .dot) :
    validate scope aliases text = .ok () := by
  obtain ⟨-, ha⟩ := validate_eq_ok_iff_words.mp ha
  obtain ⟨-, hb⟩ := validate_eq_ok_iff_words.mp hb
  rw [validate_eq_ok_iff_words, hwords, List.map_append, List.map_cons]
  -- the word between is neither a parenthesis nor a dot, so the first expression stays as it is
  refine ⟨by simp, ha.append (hw hb) ?_ ?_⟩
  · simpa [nextIs_cons, Word.token] using hparen
  · simpa [nextIs_cons, Word.token] using hdot

/-- Two accepted expressions with a comma between them are accepted. -/
theorem validate_comma {a b : String} (ha : validate scope aliases a = .ok ())
    (hb : validate scope aliases b = .ok ()) :
    validate scope aliases (a ++ ", " ++ b) = .ok () :=
  validate_around ha hb ((reads_of_validate ha).comma (reads_of_validate hb)).words_eq
    (.free (by decide)) (by decide) (by decide)

/-- Two accepted expressions with `AS` between them are accepted. -/
theorem validate_as {a b : String} (ha : validate scope aliases a = .ok ())
    (hb : validate scope aliases b = .ok ()) :
    validate scope aliases (a ++ " AS " ++ b) = .ok () := by
  have hwords :=
    ((reads_keyword "AS").around (reads_of_validate ha) (reads_of_validate hb)).words_eq
  rw [List.append_assoc] at hwords
  exact validate_around ha hb hwords (.keyword (by decide) (by decide)) (by decide) (by decide)

end Expression

end DashQuery
