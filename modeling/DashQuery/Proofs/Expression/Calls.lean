import DashQuery.Proofs.Expression.Composition
import DashQuery.Proofs.Expression.Units

/-!
# The names that an expression calls

A name with an opening parenthesis behind it is a call to the database, however
the name is written.  The check looks for the function on its list only at words
that stand by themselves: a quoted name, or the second one of a reference, is
checked as a column and never as a function.  So an accepted expression can call
whatever may be referred to, and it calls known functions only in scopes in which
nothing else may be referred to.

## Key results

- `Splits.called`: what a called name is, by the way in which it is written
- `validate_quoted_call`: a name that may be referred to may be called
- `called_names`: when accepted expressions call nothing but known functions
-/

namespace DashQuery.Expression

/-- Every name with an opening parenthesis behind it is a known function or a keyword. -/
def CallsListed (ts : List Token) : Prop :=
  ∀ before t p after, ts = before ++ t :: p :: after → t.isName = true → p.kind = .leftParen →
    isFunction t.content = true ∨ isReserved t = true

/-- No known function has a dot in its name. -/
theorem isFunction_qualified (qualifier column : String) :
    isFunction (qualifier ++ "." ++ column) = false := by
  have hdotless : ∀ f ∈ functions, '.' ∉ (capitals f).toList := by decide
  rw [← Bool.not_eq_true, isFunction_iff]
  rintro ⟨f, hf, hsame⟩
  have hdot : '.' ∈ (capitals (qualifier ++ "." ++ column)).toList := by
    rw [capitals, String.toList_ofList]
    exact List.mem_map.mpr ⟨'.', by simp, by decide⟩
  -- the dot would be one of the function's own characters
  rw [hsame] at hdot
  exact hdotless f hf hdot

section

variable {scope : Scope} {aliases : List String}

/-- A name that is called in an expression is a keyword, a known function that stands by itself, a
quoted name that may be referred to, or the second one of a reference. -/
theorem Splits.called {before after : List Token} {t p : Token}
    (h : Splits scope aliases (before ++ t :: p :: after)) (hname : t.isName = true)
    (hparen : p.kind = .leftParen) :
    isReserved t = true ∨ (t.kind = .identifier ∧ isFunction t.content = true) ∨
      (t.kind = .quotedIdentifier ∧ Refers scope aliases t.content) ∨
      ∃ earlier a d, before = earlier ++ [a, d] ∧ a.isName = true ∧ d.kind = .dot ∧
        Refers scope aliases (a.content ++ "." ++ t.content) := by
  have hkind : t.kind = .identifier ∨ t.kind = .quotedIdentifier := by
    simpa [Token.isName] using hname
  cases h.stands with
  | keyword hk => exact .inl hk
  | call _ hc hf =>
    have hword : t.kind = .identifier := by
      simp only [isCall, Bool.and_eq_true, beq_iff_eq] at hc
      exact hc.1
    exact .inr (.inl ⟨hword, hf⟩)
  | bare _ _ hc _ href =>
    -- a word with this parenthesis behind it would be a call
    rcases hkind with hword | hquoted
    · rw [isCall, nextIs_cons, hword, hparen] at hc
      cases hc
    · exact .inr (.inr (.inl ⟨hquoted, href⟩))
  -- a qualifier has a dot behind it, no parenthesis
  | qualifier hafter _ _ hdot =>
    obtain ⟨rfl, -⟩ := List.cons.inj hafter
    rw [hparen] at hdot
    cases hdot
  | dot _ _ _ _ hdot _ => simp [hdot] at hkind
  | column hbefore hqualifier hdot _ href =>
    exact .inr (.inr (.inr ⟨_, _, _, hbefore, hqualifier, hdot, href⟩))
  -- a name is no token that stands by itself
  | plain hk =>
    rcases hkind with hword | hquoted
    · rw [hword] at hk
      exact absurd hk (by decide)
    · rw [hquoted] at hk
      exact absurd hk (by decide)

/-- A quoted name with parentheses behind it is read as these three words. -/
theorem words_quoted_call {name : String} (h : Name.isValid name = true) :
    words (Name.quote name ++ "()") = [Word.quoted name, Word.leftParen, Word.rightParen] := by
  have htext : Name.quote name ++ "(" ++ "" ++ ")" = Name.quote name ++ "()" := by
    simp only [String.append_assoc]
    rfl
  rw [← htext]
  exact ((reads_quote h).call Reads.empty).words_eq

/-- A name that may be referred to is accepted as the name of a function, if it is quoted. -/
theorem validate_quoted_call {name : String} (h : Refers scope aliases name) :
    validate scope aliases (Name.quote name ++ "()") = .ok () := by
  rw [validate_eq_ok_iff_words, words_quoted_call h.valid]
  refine ⟨by simp, ?_⟩
  have href : checkReference scope aliases (Word.quoted name).token.content = .ok () := by
    rw [Word.content_token, Word.content_quoted]
    exact checkReference_eq_ok_iff_refers.mpr h
  exact .bare rfl rfl rfl rfl href (.leftParen rfl (.rightParen rfl .done))

/-- A quoted name that is called is listed only if it is a function's. -/
theorem isFunction_of_callsListed {name : String} (hvalid : Name.isValid name = true)
    (h : CallsListed (Token.scan (Name.quote name ++ "()"))) : isFunction name = true := by
  obtain ⟨t, us, hscan, ht, hus⟩ := List.map_eq_cons_iff.mp (words_quoted_call hvalid)
  obtain ⟨p, later, rfl, hp, -⟩ := List.map_eq_cons_iff.mp hus
  have hkind : t.kind = .quotedIdentifier := congrArg Word.kind ht
  have hcontent : t.content = name := by
    rw [← Word.content_quoted name, ← ht]
    rfl
  -- between quotes no word is a keyword
  rcases h [] t p later hscan (by simp [Token.isName, hkind]) (congrArg Word.kind hp) with hf | hk
  · rwa [hcontent] at hf
  · simp [isReserved, hkind] at hk

/-- If only functions may be referred to, all calls are listed. -/
theorem callsListed_of_isFunction (hfunctions : ∀ name, Refers scope aliases name →
    isFunction name = true) {expression : String} (h : validate scope aliases expression = .ok ()) :
    CallsListed (Token.scan expression) := by
  intro before t p after hscan hname hparen
  have hsplits := (validate_eq_ok_iff_isExpression.mp h).splits
  rw [hscan] at hsplits
  rcases hsplits.called hname hparen with hk | ⟨-, hf⟩ | ⟨-, href⟩ | ⟨_, _, _, -, -, -, href⟩
  · exact .inr hk
  · exact .inl hf
  · exact .inl (hfunctions _ href)
  · -- no function's name holds a dot
    have hqualified := hfunctions _ href
    rw [isFunction_qualified] at hqualified
    cases hqualified

/-- Which names an accepted expression can call.  A word that stands by itself is a keyword or a
known function; a quoted name and the second name of a reference are only known as columns or
aliases.  So all accepted expressions call known functions only exactly if every name that may be
referred to is the name of one. -/
theorem called_names {expression : String} (h : validate scope aliases expression = .ok ()) :
    (∀ before t p after, Token.scan expression = before ++ t :: p :: after → t.isName = true →
      p.kind = .leftParen → isReserved t = true ∨
        (t.kind = .identifier ∧ isFunction t.content = true) ∨
        (t.kind = .quotedIdentifier ∧ Refers scope aliases t.content) ∨
        ∃ earlier a d, before = earlier ++ [a, d] ∧ a.isName = true ∧ d.kind = .dot ∧
          Refers scope aliases (a.content ++ "." ++ t.content)) ∧
      ((∀ other, validate scope aliases other = .ok () → CallsListed (Token.scan other)) ↔
        ∀ name, Refers scope aliases name → isFunction name = true) := by
  constructor
  · -- by the unit that the name is in
    intro before t p after hscan
    have hsplits := (validate_eq_ok_iff_isExpression.mp h).splits
    rw [hscan] at hsplits
    exact hsplits.called
  · -- what may be referred to may be called between quotes, so it has to be on the list
    exact ⟨fun hlisted name href =>
        isFunction_of_callsListed href.valid (hlisted _ (validate_quoted_call href)),
      fun hfunctions other hother => callsListed_of_isFunction hfunctions hother⟩

end

/-- A call of a function that is not on the list, which passes as the quoted name of an alias. -/
def callSample : String := "\"load_extension\"('x')"

/-- The sample passes, and no function of its name is listed. -/
theorem callSample_unlisted :
    validate (Scope.ofNames ["id"]) ["load_extension"] callSample = .ok () ∧
      ¬CallsListed (Token.scan callSample) ∧
      ¬∀ other, validate (Scope.ofNames ["id"]) ["load_extension"] other = .ok () →
        CallsListed (Token.scan other) := by
  have hok : validate (Scope.ofNames ["id"]) ["load_extension"] callSample = .ok () := by
    decide +kernel
  -- the name is quoted, so it is checked as a reference
  have hscan : Token.scan callSample = [⟨.quotedIdentifier, "\"load_extension\"", 0⟩,
      ⟨.leftParen, "(", 16⟩, ⟨.string, "'x'", 17⟩, ⟨.rightParen, ")", 20⟩] := by decide +kernel
  refine ⟨hok, ?_, ?_⟩
  · intro hlisted
    rcases hlisted [] _ _ _ hscan rfl rfl with hf | hk
    · exact absurd hf (by decide +kernel)
    · exact absurd hk (by decide +kernel)
  · intro hall
    -- the name is an alias and nothing else
    have hfunction := (called_names hok).2.mp hall "load_extension"
      ⟨by decide, .inr (by simp), .inl (by simp)⟩
    exact absurd hfunction (by decide)

end DashQuery.Expression
