import DashQuery.Error
import DashQuery.Expression.Token
import DashQuery.Scope

/-! # Checking computed columns

The expression of a computed column is written into the statement as it is, so it
is checked first.  A trusted one only must not hold a placeholder outside its
literals, for that would shift every parameter behind it.  A validated one is
read token by token: each name must be a column, an alias, a known function or a
fixed keyword, and whatever could end the statement or hide a part of it is
refused.  The first offending token is reported. -/

namespace DashQuery.Expression

/-- The functions an expression may call. -/
def functions : List String :=
  ["COUNT", "SUM", "AVG", "MIN", "MAX", "TOTAL", "COALESCE", "IFNULL", "NULLIF", "ROUND", "ABS",
    "LOWER", "UPPER", "LENGTH", "SUBSTR", "STRFTIME", "DATE"]

/-- The keywords an expression may use. -/
def keywords : List String :=
  ["CASE", "WHEN", "THEN", "ELSE", "END", "AND", "OR", "NOT", "NULL", "IS", "IN", "BETWEEN",
    "LIKE", "AS", "DISTINCT", "CAST", "TRUE", "FALSE", "INTEGER", "REAL", "TEXT", "NUMERIC"]

/-- The word in ASCII capitals. -/
def capitals (word : String) : String := String.ofList (word.toList.map Char.toUpper)

/-- Whether `word` is a keyword, in capitals or not. -/
def isKeyword (word : String) : Bool := keywords.contains (capitals word)

/-- Whether `word` is a known function, in capitals or not. -/
def isFunction (word : String) : Bool := functions.contains (capitals word)

/-- The words are the same but for the case of ASCII letters. -/
def SameWord (a b : String) : Prop := capitals a = capitals b

/-- In a list of words in capitals a word is found by its letters, in whatever case. -/
theorem contains_capitals_iff {words : List String} (h : ∀ w ∈ words, capitals w = w)
    {word : String} :
    words.contains (capitals word) = true ↔ ∃ w ∈ words, SameWord word w := by
  rw [List.contains_iff_mem]
  constructor
  · intro hmem
    exact ⟨capitals word, hmem, (h _ hmem).symm⟩
  · rintro ⟨w, hw, hsame⟩
    have heq : capitals word = w := hsame.trans (h w hw)
    rwa [heq]

/-- A keyword is one of the list, in whatever case. -/
theorem isKeyword_iff {word : String} :
    isKeyword word = true ↔ ∃ k ∈ keywords, SameWord word k :=
  contains_capitals_iff (by decide)

/-- A known function is one of the list, in whatever case. -/
theorem isFunction_iff {word : String} :
    isFunction word = true ↔ ∃ f ∈ functions, SameWord word f :=
  contains_capitals_iff (by decide)

/-- Whether a token is a placeholder for a parameter. -/
def isPlaceholder (t : Token) : Bool := t.kind == .illegal && t.text == "?"

/-- Whether an expression holds no placeholder outside its literals. -/
def checkPlaceholders (expression : String) : Except QueryError Unit :=
  if (Token.scan expression).any isPlaceholder then
    .error (.unsafeExpression expression "?")
  else .ok ()

/-- Whether the next token is of a kind. -/
def nextIs (kind : TokenKind) (ts : List Token) : Bool := ts.head?.map Token.kind == some kind

/-- A reference must be a valid name and a legal column or an alias.  A column that has to be
written qualified must be referred to in that form, for the expression is written as it is. -/
def checkReference (scope : Scope) (aliases : List String) (name : String) :
    Except String Unit :=
  if !Name.isValid name then .error name
  else if aliases.contains name then .ok ()
  else if !scope.contains name then .error name
  else if scope.resolve name != name then .error name
  else .ok ()

/-- The reference that starts with the name token `t`, and the tokens behind it: two names with a
dot between them, or one name without a dot behind it.  `none` if no name follows the dot. -/
def takeReference? (t : Token) : List Token → Option (String × List Token)
  | [] => some (t.content, [])
  | d :: ts =>
    if d.kind == .dot then
      match ts with
      | [] => none
      | column :: rest =>
        if column.isName then some (t.content ++ "." ++ column.content, rest) else none
    else some (t.content, d :: ts)

/-- A reference takes tokens away and adds none. -/
theorem length_takeReference? {t : Token} {ts rest : List Token} {name : String}
    (h : takeReference? t ts = some (name, rest)) : rest.length ≤ ts.length := by
  unfold takeReference? at h
  split at h
  · obtain ⟨-, rfl⟩ := Prod.mk.inj (Option.some.inj h)
    exact Nat.le_refl _
  · split at h
    · split at h
      · simp at h
      · split at h
        · obtain ⟨-, rfl⟩ := Prod.mk.inj (Option.some.inj h)
          simp only [List.length_cons]
          omega
        · simp at h
    · obtain ⟨-, rfl⟩ := Prod.mk.inj (Option.some.inj h)
      exact Nat.le_refl _

/-- Checks tokens that stand inside `depth` open parentheses; fails with the text of the first
offender. -/
def checkTokens (scope : Scope) (aliases : List String) (depth : Nat) :
    List Token → Except String Unit
  | [] => if depth = 0 then .ok () else .error "("
  | t :: ts =>
    match t.kind with
    | .identifier | .quotedIdentifier =>
      if t.kind == .identifier && isKeyword t.content then checkTokens scope aliases depth ts
      else if t.kind == .identifier && nextIs .leftParen ts then
        if isFunction t.content then checkTokens scope aliases depth ts else .error t.content
      else
        match _h : takeReference? t ts with
        | none => .error "."
        | some (name, rest) =>
          match checkReference scope aliases name with
          | .ok _ => checkTokens scope aliases depth rest
          | .error token => .error token
    | .leftParen => checkTokens scope aliases (depth + 1) ts
    | .rightParen => if depth = 0 then .error ")" else checkTokens scope aliases (depth - 1) ts
    | .string | .number | .comma | .operator => checkTokens scope aliases depth ts
    | .dot | .semicolon | .comment | .illegal => .error t.text
termination_by ts => ts.length
decreasing_by
  all_goals simp only [List.length_cons]
  all_goals first
    | exact Nat.lt_succ_self _
    | exact Nat.lt_succ_of_le (length_takeReference? _h)

/-- Checks an expression against the legal columns, the aliases declared so far, and the fixed
functions and keywords. -/
def validate (scope : Scope) (aliases : List String) (expression : String) :
    Except QueryError Unit :=
  match Token.scan expression with
  | [] => .error (.unsafeExpression expression "")
  | t :: ts =>
    match checkTokens scope aliases 0 (t :: ts) with
    | .ok _ => .ok ()
    | .error token => .error (.unsafeExpression expression token)

end DashQuery.Expression
