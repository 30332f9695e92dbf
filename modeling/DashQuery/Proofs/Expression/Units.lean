import DashQuery.Proofs.Expression.Grammar
import DashQuery.Proofs.Expression.Nesting
import DashQuery.Proofs.Lists

/-!
# The grammar of expressions

An expression is a sequence of units, most of them single tokens: keywords, names
of functions that are called, references of one or two names, and tokens that name
nothing.  Which unit a name is depends on the token behind it.  Besides, the
parentheses of an expression are balanced.  The check reads both at once and stops
at the first token that does not fit; the grammar states them one beside the other.

## Key results

- `accepts_iff`: what the check takes off token by token is balanced and made of units
- `validate_eq_ok_iff_isExpression`: the check accepts the grammar's expressions, no other text
- `Splits.stands`: what a token of an expression can be, by its neighbours
-/

namespace DashQuery.Expression

/-- A name that an expression may refer to: a valid one, a legal column or an alias, and if it is
no alias, a column that is written as it is. -/
structure Refers (scope : Scope) (aliases : List String) (name : String) : Prop where
  valid : Name.isValid name = true
  known : scope.contains name = true ∨ name ∈ aliases
  plain : name ∈ aliases ∨ scope.resolve name = name

/-- The check of a reference is what a reference has to be. -/
theorem checkReference_eq_ok_iff_refers {scope : Scope} {aliases : List String} {name : String} :
    checkReference scope aliases name = .ok () ↔ Refers scope aliases name := by
  rw [checkReference_eq_ok_iff]
  -- whether it is known and whether it may be unqualified are asked in another order
  constructor
  · rintro ⟨hvalid, halias | ⟨hknown, hplain⟩⟩
    · exact ⟨hvalid, .inr halias, .inl halias⟩
    · exact ⟨hvalid, .inl hknown, .inr hplain⟩
  · rintro ⟨hvalid, hknown, hplain⟩
    refine ⟨hvalid, ?_⟩
    rcases hplain with halias | hplain
    · exact .inl halias
    · exact hknown.symm.imp_right fun hlegal => ⟨hlegal, hplain⟩

/-- The kinds of tokens that are units whatever stands around them. -/
def plainKinds : List TokenKind := .leftParen :: .rightParen :: freeKinds

/-- The tokens are one unit of an expression, if `rest` is what stands behind them.  Which words
are reserved and which are functions is said by `isReserved_iff` and `isFunction_iff`. -/
inductive IsUnit (scope : Scope) (aliases : List String) (rest : List Token) : List Token → Prop
  | keyword {t : Token} (hk : isReserved t = true) : IsUnit scope aliases rest [t]
  | call {t : Token} (hk : isReserved t = false) (hc : isCall t rest = true)
      (hf : isFunction t.content = true) : IsUnit scope aliases rest [t]
  | bare {t : Token} (hname : t.isName = true) (hk : isReserved t = false)
      (hc : isCall t rest = false) (hdot : nextIs .dot rest = false)
      (href : Refers scope aliases t.content) : IsUnit scope aliases rest [t]
  | qualified {t d c : Token} (hname : t.isName = true) (hk : isReserved t = false)
      (hdot : d.kind = .dot) (hcolumn : c.isName = true)
      (href : Refers scope aliases (t.content ++ "." ++ c.content)) :
      IsUnit scope aliases rest [t, d, c]
  | plain {t : Token} (hk : t.kind ∈ plainKinds) : IsUnit scope aliases rest [t]

/-- Each of the lists is a unit before those behind it. -/
def AreUnits (scope : Scope) (aliases : List String) : List (List Token) → Prop
  | [] => True
  | u :: us => IsUnit scope aliases us.flatten u ∧ AreUnits scope aliases us

/-- The tokens split into units. -/
def Splits (scope : Scope) (aliases : List String) (ts : List Token) : Prop :=
  ∃ units, AreUnits scope aliases units ∧ units.flatten = ts

/-- The grammar of expressions: at least one token, none that could end the statement, hide a part
of it or stand for a parameter, balanced parentheses, and nothing but units. -/
structure IsExpression (scope : Scope) (aliases : List String) (ts : List Token) : Prop where
  ne_nil : ts ≠ []
  harmless : ∀ t ∈ ts, t.kind ≠ .semicolon ∧ t.kind ≠ .comment ∧ t.kind ≠ .illegal
  balanced : Balanced (ts.map Token.kind)
  splits : Splits scope aliases ts

section

variable {scope : Scope} {aliases : List String} {depth : Nat} {ts : List Token}

/-! ## The check and the grammar -/

/-- A name is no parenthesis. -/
private theorem kind_ne_paren {t : Token} (h : t.isName = true) :
    t.kind ≠ .leftParen ∧ t.kind ≠ .rightParen := by
  constructor <;> intro hk <;> simp [Token.isName, hk] at h

/-- A keyword, a word, is a name. -/
theorem isName_of_isReserved {t : Token} (h : isReserved t = true) : t.isName = true := by
  simp only [isReserved, Bool.and_eq_true] at h
  simp [Token.isName, h.1]

/-- What is called is a name. -/
theorem isName_of_isCall {t : Token} {ts : List Token} (h : isCall t ts = true) :
    t.isName = true := by
  simp only [isCall, Bool.and_eq_true] at h
  simp [Token.isName, h.1]

/-- A unit in front of what is made of units. -/
theorem Splits.cons {u : List Token} (hu : IsUnit scope aliases ts u)
    (h : Splits scope aliases ts) : Splits scope aliases (u ++ ts) := by
  obtain ⟨units, hunits, rfl⟩ := h
  exact ⟨u :: units, ⟨hu, hunits⟩, rfl⟩

/-- What the check takes off token by token closes its parentheses and is made of units. -/
theorem Accepts.closes_and_splits (h : Accepts scope aliases depth ts) :
    Closes depth (ts.map Token.kind) ∧ Splits scope aliases ts := by
  -- each rule of the check takes one unit off
  induction h with
  | done => exact ⟨.done, [], trivial, rfl⟩
  | keyword hn hk _ ih =>
    exact ⟨.other (kind_ne_paren hn).1 (kind_ne_paren hn).2 ih.1, ih.2.cons (.keyword hk)⟩
  | call hn hk hc hf _ ih =>
    exact ⟨.other (kind_ne_paren hn).1 (kind_ne_paren hn).2 ih.1, ih.2.cons (.call hk hc hf)⟩
  | bare hn hk hc hdot href _ ih =>
    exact ⟨.other (kind_ne_paren hn).1 (kind_ne_paren hn).2 ih.1,
      ih.2.cons (.bare hn hk hc hdot (checkReference_eq_ok_iff_refers.mp href))⟩
  | qualified hn hk hd hc href _ ih =>
    refine ⟨?_, ih.2.cons (.qualified hn hk hd hc (checkReference_eq_ok_iff_refers.mp href))⟩
    exact .other (kind_ne_paren hn).1 (kind_ne_paren hn).2 (.other (by simp [hd]) (by simp [hd])
      (.other (kind_ne_paren hc).1 (kind_ne_paren hc).2 ih.1))
  | leftParen hk _ ih =>
    refine ⟨?_, ih.2.cons (.plain (by simp [hk, plainKinds]))⟩
    rw [List.map_cons, hk]
    exact .leftParen ih.1
  | rightParen hk _ ih =>
    refine ⟨?_, ih.2.cons (.plain (by simp [hk, plainKinds]))⟩
    rw [List.map_cons, hk]
    exact .rightParen ih.1
  | free hk _ ih =>
    refine ⟨.other ?_ ?_ ih.1, ih.2.cons (.plain (by simp [hk, plainKinds]))⟩ <;>
      · intro heq
        rw [heq] at hk
        exact absurd hk (by decide)

/-- Units are what the check takes off, if their parentheses close. -/
theorem AreUnits.accepts {units : List (List Token)} (h : AreUnits scope aliases units)
    (hcloses : Closes depth (units.flatten.map Token.kind)) :
    Accepts scope aliases depth units.flatten := by
  -- one unit at a time; what is left to close behind it follows from the kinds of its tokens
  induction units generalizing depth with
  | nil =>
    cases hcloses
    exact .done
  | cons u us ih =>
    obtain ⟨hu, hus⟩ := h
    rw [List.flatten_cons] at hcloses ⊢
    cases hu with
    | keyword hk =>
      have hn := isName_of_isReserved hk
      exact .keyword hn hk (ih hus (hcloses.of_other (kind_ne_paren hn).1 (kind_ne_paren hn).2))
    | call hk hc hf =>
      have hn := isName_of_isCall hc
      exact .call hn hk hc hf
        (ih hus (hcloses.of_other (kind_ne_paren hn).1 (kind_ne_paren hn).2))
    | bare hn hk hc hdot href =>
      exact .bare hn hk hc hdot (checkReference_eq_ok_iff_refers.mpr href)
        (ih hus (hcloses.of_other (kind_ne_paren hn).1 (kind_ne_paren hn).2))
    -- three tokens, none of them a parenthesis
    | qualified hn hk hd hc href =>
      have hbehind := hcloses.of_other (kind_ne_paren hn).1 (kind_ne_paren hn).2
      have hcolumn := hbehind.of_other (by simp [hd]) (by simp [hd])
      exact .qualified hn hk hd hc (checkReference_eq_ok_iff_refers.mpr href)
        (ih hus (hcolumn.of_other (kind_ne_paren hc).1 (kind_ne_paren hc).2))
    -- a parenthesis changes the depth, any other token does not
    | @plain t hk =>
      rw [List.singleton_append, List.map_cons] at hcloses
      by_cases hl : t.kind = .leftParen
      · rw [hl] at hcloses
        exact .leftParen hl (ih hus hcloses.of_leftParen)
      · by_cases hr : t.kind = .rightParen
        · rw [hr] at hcloses
          obtain ⟨n, rfl, hrest⟩ := hcloses.of_rightParen
          exact .rightParen hr (ih hus hrest)
        · have hfree : t.kind ∈ freeKinds := by simpa [plainKinds, hl, hr] using hk
          exact .free hfree (ih hus (hcloses.of_other hl hr))

/-- The check takes tokens off to the end exactly if their parentheses close and they split into
units. -/
theorem accepts_iff : Accepts scope aliases depth ts ↔
    Closes depth (ts.map Token.kind) ∧ Splits scope aliases ts := by
  constructor
  · exact Accepts.closes_and_splits
  · rintro ⟨hcloses, units, hunits, rfl⟩
    exact hunits.accepts hcloses

/-- The check of expressions accepts the texts whose tokens are of the grammar, and no other. -/
theorem validate_eq_ok_iff_isExpression {expression : String} :
    validate scope aliases expression = .ok () ↔
      IsExpression scope aliases (Token.scan expression) := by
  rw [validate_eq_ok_iff]
  constructor
  · rintro ⟨hne, haccepts⟩
    obtain ⟨hcloses, hsplits⟩ := accepts_iff.mp haccepts
    exact ⟨hne, haccepts.kind_ne, balanced_iff_closes.mpr hcloses, hsplits⟩
  · intro h
    exact ⟨h.ne_nil, accepts_iff.mpr ⟨balanced_iff_closes.mp h.balanced, h.splits⟩⟩

/-! ## A token among its neighbours -/

/-- What the token `t` of an expression is, with `before` in front of it and `after` behind. -/
inductive Stands (scope : Scope) (aliases : List String) (before : List Token) (t : Token)
    (after : List Token) : Prop
  | keyword (hk : isReserved t = true)
  | call (hk : isReserved t = false) (hc : isCall t after = true)
      (hf : isFunction t.content = true)
  | bare (hname : t.isName = true) (hk : isReserved t = false) (hc : isCall t after = false)
      (hdot : nextIs .dot after = false) (href : Refers scope aliases t.content)
  | qualifier {d c : Token} {later : List Token} (hafter : after = d :: c :: later)
      (hname : t.isName = true) (hk : isReserved t = false) (hdot : d.kind = .dot)
  | dot {a c : Token} {earlier later : List Token} (hbefore : before = earlier ++ [a])
      (hafter : after = c :: later) (hqualifier : a.isName = true) (hk : isReserved a = false)
      (hdot : t.kind = .dot) (href : Refers scope aliases (a.content ++ "." ++ c.content))
  | column {a d : Token} {earlier : List Token} (hbefore : before = earlier ++ [a, d])
      (hqualifier : a.isName = true) (hdot : d.kind = .dot) (hname : t.isName = true)
      (href : Refers scope aliases (a.content ++ "." ++ t.content))
  | plain (hk : t.kind ∈ plainKinds)

/-- A unit is one, before what is behind it. -/
theorem AreUnits.unit {us vs : List (List Token)} {u : List Token}
    (h : AreUnits scope aliases (us ++ u :: vs)) : IsUnit scope aliases vs.flatten u := by
  induction us with
  | nil => exact h.1
  | cons x xs ih => exact ih h.2

/-- A token is a unit by itself or in a reference of two names: the first of them, the dot or the
second. -/
theorem IsUnit.token_cases {l r rest : List Token} {t : Token}
    (h : IsUnit scope aliases rest (l ++ t :: r)) :
    (l = [] ∧ r = [] ∧ IsUnit scope aliases rest [t]) ∨
      ∃ a d c, a.isName = true ∧ isReserved a = false ∧ d.kind = .dot ∧ c.isName = true ∧
        Refers scope aliases (a.content ++ "." ++ c.content) ∧
        ((l = [] ∧ t = a ∧ r = [d, c]) ∨ (l = [a] ∧ t = d ∧ r = [c]) ∨
          (l = [a, d] ∧ t = c ∧ r = [])) := by
  generalize hu : l ++ t :: r = u at h
  have hunit := h
  cases h with
  | qualified hn hk hd hc href =>
    refine .inr ⟨_, _, _, hn, hk, hd, hc, href, ?_⟩
    -- the tokens in front of `t` are none, one or two of the three
    match l, hu with
    | [], hu =>
      obtain ⟨rfl, rfl⟩ := List.cons.inj hu
      exact .inl ⟨rfl, rfl, rfl⟩
    | [a], hu =>
      simp only [List.cons_append, List.nil_append, List.cons.injEq] at hu
      obtain ⟨rfl, rfl, rfl⟩ := hu
      exact .inr (.inl ⟨rfl, rfl, rfl⟩)
    | [a, d], hu =>
      simp only [List.cons_append, List.nil_append, List.cons.injEq] at hu
      obtain ⟨rfl, rfl, rfl, rfl⟩ := hu
      exact .inr (.inr ⟨rfl, rfl, rfl⟩)
    | _ :: _ :: _ :: l, hu => simp at hu
  -- every other unit is one token
  | _ =>
    obtain ⟨rfl, rfl, rfl⟩ : l = [] ∧ r = [] ∧ t = _ := by
      simpa [List.append_eq_cons_iff, and_comm] using hu
    exact .inl ⟨rfl, rfl, hunit⟩

/-- What a token can be, by the unit it is in. -/
theorem Splits.stands {before after : List Token} {t : Token}
    (h : Splits scope aliases (before ++ t :: after)) :
    Stands scope aliases before t after := by
  obtain ⟨units, hunits, hflat⟩ := h
  obtain ⟨us, l, r, vs, rfl, rfl, rfl⟩ := exists_part_of_flatten hflat
  -- the unit of the token, and its place in it: alone, or one of the three of a qualified name
  rcases hunits.unit.token_cases with ⟨rfl, rfl, hunit⟩ |
    ⟨a, d, c, hn, hk, hd, hc, href, ⟨rfl, rfl, rfl⟩ | ⟨rfl, rfl, rfl⟩ | ⟨rfl, rfl, rfl⟩⟩
  · cases hunit with
    | keyword hk => exact .keyword hk
    | call hk hc hf => exact .call hk hc hf
    | bare hn hk hc hdot href => exact .bare hn hk hc hdot href
    | plain hk => exact .plain hk
  · exact .qualifier rfl hn hk hd
  · exact .dot rfl rfl hn hk hd href
  · exact .column rfl hn hd hc href

/-- A dot stands between two names, of which the first is no keyword. -/
theorem Splits.dot_cases {before after : List Token} {d : Token}
    (h : Splits scope aliases (before ++ d :: after)) (hd : d.kind = .dot) :
    ∃ earlier a c later, before = earlier ++ [a] ∧ after = c :: later ∧ a.isName = true ∧
      isReserved a = false ∧ Refers scope aliases (a.content ++ "." ++ c.content) := by
  have hname : d.isName = false := by simp [Token.isName, hd]
  -- a dot is no name and no token that stands by itself
  cases h.stands with
  | dot hbefore hafter hqualifier hk _ href =>
    exact ⟨_, _, _, _, hbefore, hafter, hqualifier, hk, href⟩
  | keyword hk => simp [isName_of_isReserved hk] at hname
  | call _ hc _ => simp [isName_of_isCall hc] at hname
  | bare hn | qualifier _ hn | column _ _ _ hn => simp [hn] at hname
  | plain hk =>
    rw [hd] at hk
    exact absurd hk (by decide)

/-! ## A unit in another's place -/

/-- A unit depends on what is behind it only through the kind of the next token. -/
theorem IsUnit.congr {rest rest' u : List Token} (h : IsUnit scope aliases rest u)
    (hnext : ∀ kind, nextIs kind rest' = nextIs kind rest) : IsUnit scope aliases rest' u := by
  cases h with
  | keyword hk => exact .keyword hk
  | call hk hc hf =>
    refine .call hk ?_ hf
    rwa [isCall, hnext]
  | bare hn hk hc hdot href =>
    refine .bare hn hk ?_ ?_ href
    · rwa [isCall, hnext]
    · rwa [hnext]
  -- a qualified name is complete, whatever is behind it
  | qualified hn hk hd hc href => exact .qualified hn hk hd hc href
  | plain hk => exact .plain hk

/-- A unit may be exchanged for one that begins with a token of the same kind. -/
theorem AreUnits.exchange {us vs : List (List Token)} {u v : List Token}
    (h : AreUnits scope aliases (us ++ u :: vs)) (hv : IsUnit scope aliases vs.flatten v)
    (hnext : ∀ kind, nextIs kind (v ++ vs.flatten) = nextIs kind (u ++ vs.flatten)) :
    AreUnits scope aliases (us ++ v :: vs) := by
  induction us with
  | nil => exact ⟨hv, h.2⟩
  | cons x xs ih =>
    refine ⟨h.1.congr fun kind => ?_, ih h.2⟩
    show nextIs kind (xs ++ v :: vs).flatten = nextIs kind (xs ++ u :: vs).flatten
    rw [List.flatten_append, List.flatten_append, List.flatten_cons, List.flatten_cons]
    -- behind a unit comes the exchanged one or another
    cases xs.flatten with
    | nil => exact hnext kind
    | cons y ys => rfl

/-- A keyword that is not the second name of a reference may be exchanged for any other. -/
theorem Splits.exchange_keyword {before after : List Token} {t w : Token}
    (h : Splits scope aliases (before ++ t :: after)) (ht : isReserved t = true)
    (hw : isReserved w = true) (hdot : ∀ d ∈ before.getLast?, d.kind ≠ .dot) :
    Splits scope aliases (before ++ w :: after) := by
  have hword : ∀ {x : Token}, isReserved x = true → x.kind = .identifier := by
    intro x hx
    simp only [isReserved, Bool.and_eq_true, beq_iff_eq] at hx
    exact hx.1
  obtain ⟨units, hunits, hflat⟩ := h
  obtain ⟨us, l, r, vs, rfl, rfl, rfl⟩ := exists_part_of_flatten hflat
  rcases hunits.unit.token_cases with ⟨rfl, rfl, -⟩ |
    ⟨a, d, c, -, hk, hd, -, -, ⟨-, rfl, -⟩ | ⟨-, rfl, -⟩ | ⟨rfl, -, -⟩⟩
  · -- the keyword is a unit, and both words are names to the unit in front
    refine ⟨us ++ [w] :: vs, hunits.exchange (.keyword hw) fun kind => ?_, by simp⟩
    simp only [List.nil_append, List.singleton_append, nextIs_cons, hword ht, hword hw]
  · -- no first name of a reference is a keyword
    rw [ht] at hk
    cases hk
  · rw [hword ht] at hd
    cases hd
  · -- the last name of a reference has a dot in front
    exact absurd hd (hdot d (by simp))

end

end DashQuery.Expression
