import DashQuery.Expression.Check

/-!
# What passes the check of an expression

The check walks over tokens and keeps count of open parentheses.  `Accepts` lists
what it takes off the front: a keyword, the name of a function that is called, a
reference of one or two names, a parenthesis, or a token that names nothing.  The
check succeeds exactly if the tokens can be taken off like this to the end, so
proofs about accepted expressions go by induction on `Accepts`.

## Key results

- `checkReference_eq_ok_iff`: when a reference passes
- `checkTokens_eq_ok_iff`: the check accepts what `Accepts` lists, and nothing else
- `validate_eq_ok_iff`: the same for whole expressions
-/

namespace DashQuery.Expression

/-- A word of the expression language that stands by itself. -/
def isReserved (t : Token) : Bool := t.kind == .identifier && isKeyword t.content

/-- A reserved word is an unquoted one of the keywords, in whatever case. -/
theorem isReserved_iff {t : Token} :
    isReserved t = true ↔ t.kind = .identifier ∧ ∃ k ∈ keywords, SameWord t.content k := by
  rw [isReserved, Bool.and_eq_true, beq_iff_eq, isKeyword_iff]

/-- A word with an opening parenthesis behind it. -/
def isCall (t : Token) (ts : List Token) : Bool := t.kind == .identifier && nextIs .leftParen ts

/-- The kinds of tokens that name nothing and pass anywhere. -/
def freeKinds : List TokenKind := [.string, .number, .comma, .operator]

/-- The tokens can be taken off the front, unit by unit, inside `depth` open parentheses. -/
inductive Accepts (scope : Scope) (aliases : List String) : Nat → List Token → Prop
  | done : Accepts scope aliases 0 []
  | keyword {depth : Nat} {t : Token} {ts : List Token} (hname : t.isName = true)
      (hk : isReserved t = true) (rest : Accepts scope aliases depth ts) :
      Accepts scope aliases depth (t :: ts)
  | call {depth : Nat} {t : Token} {ts : List Token} (hname : t.isName = true)
      (hk : isReserved t = false) (hc : isCall t ts = true) (hf : isFunction t.content = true)
      (rest : Accepts scope aliases depth ts) : Accepts scope aliases depth (t :: ts)
  | bare {depth : Nat} {t : Token} {ts : List Token} (hname : t.isName = true)
      (hk : isReserved t = false) (hc : isCall t ts = false) (hdot : nextIs .dot ts = false)
      (href : checkReference scope aliases t.content = .ok ())
      (rest : Accepts scope aliases depth ts) : Accepts scope aliases depth (t :: ts)
  | qualified {depth : Nat} {t d c : Token} {ts : List Token} (hname : t.isName = true)
      (hk : isReserved t = false) (hdot : d.kind = .dot) (hcolumn : c.isName = true)
      (href : checkReference scope aliases (t.content ++ "." ++ c.content) = .ok ())
      (rest : Accepts scope aliases depth ts) : Accepts scope aliases depth (t :: d :: c :: ts)
  | leftParen {depth : Nat} {t : Token} {ts : List Token} (hk : t.kind = .leftParen)
      (rest : Accepts scope aliases (depth + 1) ts) : Accepts scope aliases depth (t :: ts)
  | rightParen {depth : Nat} {t : Token} {ts : List Token} (hk : t.kind = .rightParen)
      (rest : Accepts scope aliases depth ts) : Accepts scope aliases (depth + 1) (t :: ts)
  | free {depth : Nat} {t : Token} {ts : List Token} (hk : t.kind ∈ freeKinds)
      (rest : Accepts scope aliases depth ts) : Accepts scope aliases depth (t :: ts)

/-! ## References -/

/-- A reference passes if its name is valid and it is an alias, or a legal column that is written as
it is. -/
theorem checkReference_eq_ok_iff {scope : Scope} {aliases : List String} {name : String} :
    checkReference scope aliases name = .ok () ↔
      Name.isValid name = true ∧
        (name ∈ aliases ∨ scope.contains name = true ∧ scope.resolve name = name) := by
  unfold checkReference
  cases hv : Name.isValid name with
  | false => simp
  | true =>
    -- an alias is accepted before it is looked up
    by_cases ha : name ∈ aliases
    · simp [ha]
    · cases scope.contains name <;> simp [ha]

/-- What comes next is the first token. -/
theorem nextIs_cons (kind : TokenKind) (d : Token) (ts : List Token) :
    nextIs kind (d :: ts) = (d.kind == kind) := by
  simp [nextIs]

/-- A reference is one name without a dot behind it, or two names with a dot between them. -/
theorem takeReference?_eq_some_iff {t : Token} {ts rest : List Token} {name : String} :
    takeReference? t ts = some (name, rest) ↔
      (nextIs .dot ts = false ∧ name = t.content ∧ rest = ts) ∨
        ∃ d c, ts = d :: c :: rest ∧ d.kind = .dot ∧ c.isName = true ∧
          name = t.content ++ "." ++ c.content := by
  constructor
  · intro h
    -- no token behind the name, a dot, or something else
    unfold takeReference? at h
    split at h
    · obtain ⟨rfl, rfl⟩ := Prod.mk.inj (Option.some.inj h)
      exact .inl ⟨rfl, rfl, rfl⟩
    · next d us =>
      split at h
      · next hd =>
        split at h
        · cases h
        · next c us =>
          obtain ⟨hc, hsome⟩ := Option.ite_none_right_eq_some.mp h
          obtain ⟨rfl, rfl⟩ := Prod.mk.inj (Option.some.inj hsome)
          exact .inr ⟨d, c, rfl, by simpa using hd, hc, rfl⟩
      · next hd =>
        obtain ⟨rfl, rfl⟩ := Prod.mk.inj (Option.some.inj h)
        exact .inl ⟨by rw [nextIs_cons]; simpa using hd, rfl, rfl⟩
  · -- one name, or two
    rintro (⟨hdot, rfl, rfl⟩ | ⟨d, c, rfl, hd, hc, rfl⟩)
    · cases rest with
      | nil => rfl
      | cons d us =>
        rw [nextIs_cons] at hdot
        simp [takeReference?, hdot]
    · simp [takeReference?, hd, hc]

/-! ## The check -/

section check

variable {scope : Scope} {aliases : List String} {depth : Nat} {t : Token} {ts : List Token}

/-- How the check goes on at a token that can be a part of a name. -/
theorem checkTokens_name (h : t.isName = true) :
    checkTokens scope aliases depth (t :: ts) =
      if isReserved t then checkTokens scope aliases depth ts
      else if isCall t ts then
        if isFunction t.content then checkTokens scope aliases depth ts else .error t.content
      else
        match takeReference? t ts with
        | none => .error "."
        | some (name, rest) =>
          match checkReference scope aliases name with
          | .ok _ => checkTokens scope aliases depth rest
          | .error token => .error token := by
  -- the check has one case for each of the two kinds of names, and both go on alike
  have hkind : t.kind = .identifier ∨ t.kind = .quotedIdentifier := by
    simpa [Token.isName] using h
  rw [checkTokens]
  rcases hkind with hk | hk
  all_goals
    simp only [hk, isReserved, isCall]
    split
    · rfl
    · split
      · rfl
      · split
        · next hnone => rw [hnone]
        · next name rest hsome =>
          cases hc : checkReference scope aliases name <;> simp [hsome, hc]

/-- What the check lets pass can be taken off unit by unit; the induction is on the length, for a
reference of two names is taken off at once. -/
theorem accepts_of_checkTokens {depth : Nat} {ts : List Token}
    (h : checkTokens scope aliases depth ts = .ok ()) : Accepts scope aliases depth ts := by
  cases ts with
  | nil =>
    rw [checkTokens] at h
    obtain rfl : depth = 0 := by simpa using h
    exact .done
  | cons t ts =>
    cases hname : t.isName with
    | true =>
      -- a name: a keyword, a call or a reference
      rw [checkTokens_name hname] at h
      split at h
      · next hk => exact .keyword hname hk (accepts_of_checkTokens h)
      · next hk =>
        rw [Bool.not_eq_true] at hk
        split at h
        · next hc =>
          split at h
          · next hf => exact .call hname hk hc hf (accepts_of_checkTokens h)
          · cases h
        · next hc =>
          rw [Bool.not_eq_true] at hc
          split at h
          · cases h
          · next name rest htake =>
            split at h
            · next href =>
              -- a reference of two names takes three tokens, which are fewer than there are
              have hlen := length_takeReference? htake
              rcases takeReference?_eq_some_iff.mp htake with ⟨hdot, rfl, rfl⟩ |
                ⟨d, c, rfl, hd, hcolumn, rfl⟩
              · exact .bare hname hk hc hdot href (accepts_of_checkTokens h)
              · exact .qualified hname hk hd hcolumn href (accepts_of_checkTokens h)
            · cases h
    | false =>
      rw [checkTokens] at h
      split at h
      · next hk => simp [Token.isName, hk] at hname
      · next hk => simp [Token.isName, hk] at hname
      · next hk => exact .leftParen hk (accepts_of_checkTokens h)
      · next hk =>
        split at h
        · cases h
        · next hdepth =>
          -- a closing parenthesis needs an open one
          obtain ⟨n, rfl⟩ := Nat.exists_eq_succ_of_ne_zero hdepth
          exact .rightParen hk (accepts_of_checkTokens h)
      -- strings, numbers, commas and operators
      iterate 4
        · next hk => exact .free (by simp [freeKinds, hk]) (accepts_of_checkTokens h)
      all_goals cases h
termination_by ts.length

/-- Tokens pass the check exactly if they are accepted. -/
theorem checkTokens_eq_ok_iff {ts : List Token} :
    checkTokens scope aliases depth ts = .ok () ↔ Accepts scope aliases depth ts := by
  refine ⟨accepts_of_checkTokens, fun h => ?_⟩
  -- each unit that is taken off is what one step of the check lets pass
  induction h with
  | done => rw [checkTokens, if_pos rfl]
  | keyword hname hk _ ih => rw [checkTokens_name hname, if_pos hk, ih]
  | call hname hk hc hf _ ih =>
    rw [checkTokens_name hname, if_neg (by simp [hk]), if_pos hc, if_pos hf, ih]
  -- a reference of one name, and one of two
  | @bare depth t ts hname hk hc hdot href _ ih =>
    have htake : takeReference? t ts = some (t.content, ts) :=
      takeReference?_eq_some_iff.mpr (.inl ⟨hdot, rfl, rfl⟩)
    rw [checkTokens_name hname, if_neg (by simp [hk]), if_neg (by simp [hc]), htake]
    simp only [href, ih]
  | @qualified depth t d c ts hname hk hdot hcolumn href _ ih =>
    have htake : takeReference? t (d :: c :: ts) = some (t.content ++ "." ++ c.content, ts) :=
      takeReference?_eq_some_iff.mpr (.inr ⟨d, c, rfl, hdot, hcolumn, rfl⟩)
    have hc : isCall t (d :: c :: ts) = false := by simp [isCall, nextIs_cons, hdot]
    rw [checkTokens_name hname, if_neg (by simp [hk]), if_neg (by simp [hc]), htake]
    simp only [href, ih]
  | leftParen hk _ ih =>
    rw [checkTokens]
    simp only [hk, ih]
  | rightParen hk _ ih =>
    rw [checkTokens]
    simp only [hk, Nat.add_one_ne_zero, if_false, Nat.add_sub_cancel, ih]
  -- strings, numbers, commas and operators
  | free hk _ ih =>
    simp only [freeKinds, List.mem_cons, List.not_mem_nil, or_false] at hk
    rw [checkTokens]
    rcases hk with hk | hk | hk | hk <;> simp only [hk, ih]

end check

/-! ## What is in accepted tokens -/

/-- A name, or one side of a name that is put together with a dot. -/
def IsPart (part name : String) : Prop :=
  part = name ∨ ∃ other, name = part ++ "." ++ other ∨ name = other ++ "." ++ part

section accepted

variable {scope : Scope} {aliases : List String} {depth : Nat} {ts : List Token}

/-- No accepted token could end the statement, hide a part of it, or stand for a parameter. -/
theorem Accepts.kind_ne (h : Accepts scope aliases depth ts) :
    ∀ t ∈ ts, t.kind ≠ .semicolon ∧ t.kind ≠ .comment ∧ t.kind ≠ .illegal := by
  -- names are no such tokens; the others are of a kind that is given
  have hname : ∀ {t : Token}, t.isName = true →
      t.kind ≠ .semicolon ∧ t.kind ≠ .comment ∧ t.kind ≠ .illegal := by
    intro t ht
    cases hk : t.kind <;> simp_all [Token.isName]
  induction h with
  | done => simp
  | keyword hn _ _ ih | call hn _ _ _ _ ih | bare hn _ _ _ _ _ ih =>
    exact List.forall_mem_cons.mpr ⟨hname hn, ih⟩
  | qualified hn _ hd hc _ _ ih =>
    refine List.forall_mem_cons.mpr ⟨hname hn, List.forall_mem_cons.mpr ⟨?_, ?_⟩⟩
    · simp [hd]
    · exact List.forall_mem_cons.mpr ⟨hname hc, ih⟩
  | leftParen hk _ ih | rightParen hk _ ih =>
    exact List.forall_mem_cons.mpr ⟨by simp [hk], ih⟩
  | free hk _ ih =>
    refine List.forall_mem_cons.mpr ⟨?_, ih⟩
    simp only [freeKinds, List.mem_cons, List.not_mem_nil, or_false] at hk
    rcases hk with hk | hk | hk | hk <;> simp [hk]

/-- Every accepted word is a keyword, a function's name, or a part of a reference that passed. -/
theorem Accepts.word_cases (h : Accepts scope aliases depth ts) :
    ∀ t ∈ ts, t.kind = .identifier → isKeyword t.content = true ∨ isFunction t.content = true ∨
      ∃ name, checkReference scope aliases name = .ok () ∧ IsPart t.content name := by
  induction h with
  | done => simp
  | @keyword depth t ts hn hk _ ih =>
    refine List.forall_mem_cons.mpr ⟨fun _ => .inl ?_, ih⟩
    exact (Bool.and_eq_true_iff.mp hk).2
  -- the name of a function
  | call hn _ _ hf _ ih => exact List.forall_mem_cons.mpr ⟨fun _ => .inr (.inl hf), ih⟩
  | bare hn _ _ _ href _ ih =>
    exact List.forall_mem_cons.mpr ⟨fun _ => .inr (.inr ⟨_, href, .inl rfl⟩), ih⟩
  | @qualified depth t d c ts hn _ hd hc href _ ih =>
    refine List.forall_mem_cons.mpr ⟨fun _ => ?_, List.forall_mem_cons.mpr ⟨fun hk => ?_, ?_⟩⟩
    · -- the qualifier, the dot and the column
      exact .inr (.inr ⟨_, href, .inr ⟨c.content, .inl rfl⟩⟩)
    · rw [hd] at hk
      cases hk
    · exact List.forall_mem_cons.mpr
        ⟨fun _ => .inr (.inr ⟨_, href, .inr ⟨t.content, .inr rfl⟩⟩), ih⟩
  -- anything else is no word
  | leftParen hk _ ih | rightParen hk _ ih =>
    refine List.forall_mem_cons.mpr ⟨fun hi => ?_, ih⟩
    rw [hk] at hi
    cases hi
  | free hk _ ih =>
    refine List.forall_mem_cons.mpr ⟨fun hi => ?_, ih⟩
    rw [hi] at hk
    exact absurd hk (by decide)

end accepted

/-- A validated expression has tokens, and all of them can be taken off. -/
theorem validate_eq_ok_iff {scope : Scope} {aliases : List String} {expression : String} :
    validate scope aliases expression = .ok () ↔
      Token.scan expression ≠ [] ∧ Accepts scope aliases 0 (Token.scan expression) := by
  rw [← checkTokens_eq_ok_iff]
  unfold validate
  cases Token.scan expression with
  | nil => simp
  | cons t ts => cases hc : checkTokens scope aliases 0 (t :: ts) <;> simp [hc]

end DashQuery.Expression
