import DashQuery.Text.Blank

/-! # Tokens of statement text

The tokens of an expression or a whole statement, each with the text it was read
from and where that text starts, in bytes of UTF-8.  Blanks separate tokens and
belong to none.  A lexeme is read off the front of the text by `Lexeme.read`:

* `Lexeme.read_append`   its characters and the rest are the text
* `Lexeme.read_head`     it takes at least the first character

so that scanning loses nothing and comes to an end. -/

namespace DashQuery

/-- What a token is. -/
inductive TokenKind where
  | identifier
  /-- A name between double quotes. -/
  | quotedIdentifier
  /-- A text between single quotes. -/
  | string
  | number
  | leftParen
  | rightParen
  | comma
  | dot
  | operator
  | semicolon
  /-- The first character of a comment's opening. -/
  | comment
  /-- A character with no other reading, or a literal that is not closed. -/
  | illegal
deriving DecidableEq

/-- A token. -/
structure Token where
  kind : TokenKind
  /-- The characters it was read from. -/
  text : String
  /-- The byte at which they start. -/
  start : Nat
deriving DecidableEq

namespace Token

/-- The byte behind the token. -/
def stop (t : Token) : Nat := t.start + t.text.utf8ByteSize

/-- `text` without its first and its last character. -/
def inner (text : String) : String := String.ofList text.toList.tail.dropLast

/-- What the token says: a literal without its delimiters, with doubled ones left as they are;
nothing for a token whose kind says it all. -/
def content (t : Token) : String :=
  match t.kind with
  | .identifier | .number | .operator => t.text
  | .quotedIdentifier | .string => inner t.text
  | .leftParen | .rightParen | .comma | .dot | .semicolon | .comment | .illegal => ""

/-- Whether the token can be a part of a name. -/
def isName (t : Token) : Bool := t.kind == .identifier || t.kind == .quotedIdentifier

end Token

/-- A token's kind and characters, and the text behind it. -/
structure Lexeme where
  kind : TokenKind
  chars : List Char
  rest : List Char

namespace Lexeme

/-- Whether an identifier may start with `c`. -/
def isWordStart (c : Char) : Bool := c.isAlpha || c == '_'

/-- Whether an identifier may go on with `c`. -/
def isWordChar (c : Char) : Bool := c.isAlphanum || c == '_'

/-- Splits behind a literal's closing delimiter; the literal's opening one is already read.  A
doubled delimiter stands for itself and closes nothing.  `none` if the literal is not closed. -/
def closing? (delimiter : Char) : List Char → Option (List Char × List Char)
  | [] => none
  | [c] => if c = delimiter then some ([c], []) else none
  | c :: d :: t =>
    if c = delimiter then
      if d = delimiter then
        (closing? delimiter t).map fun split => (c :: d :: split.1, split.2)
      else some ([c], d :: t)
    else (closing? delimiter (d :: t)).map fun split => (c :: split.1, split.2)

/-- A literal that starts with `delimiter`; one that is not closed takes all that is left. -/
def literal (kind : TokenKind) (delimiter : Char) (t : List Char) : Lexeme :=
  match closing? delimiter t with
  | some (body, rest) => ⟨kind, delimiter :: body, rest⟩
  | none => ⟨.illegal, delimiter :: t, []⟩

/-- Digits with at most one point among or behind them, from a first digit on. -/
def number (c : Char) (t : List Char) : Lexeme :=
  match t.dropWhile Char.isDigit with
  | '.' :: r =>
    ⟨.number, c :: (t.takeWhile Char.isDigit ++ '.' :: r.takeWhile Char.isDigit),
      r.dropWhile Char.isDigit⟩
  | r => ⟨.number, c :: t.takeWhile Char.isDigit, r⟩

/-- Letters, digits and underscores, from a first letter or underscore on. -/
def word (c : Char) (t : List Char) : Lexeme :=
  ⟨.identifier, c :: t.takeWhile isWordChar, t.dropWhile isWordChar⟩

/-- One character as a token of its own. -/
def single (kind : TokenKind) (c : Char) (t : List Char) : Lexeme := ⟨kind, [c], t⟩

/-- Whether `c` and `d` together are one operator. -/
def isPair (c d : Char) : Bool :=
  (c == '<' && (d == '=' || d == '>')) || (c == '>' && d == '=') || (c == '!' && d == '=') ||
    (c == '|' && d == '|')

/-- What an operator's first character is by itself. -/
def lone (c : Char) : TokenKind := if c = '!' ∨ c = '|' then .illegal else .operator

/-- An operator of one or two characters; `!` and `|` are none by themselves. -/
def comparison (c : Char) : List Char → Lexeme
  | [] => single (lone c) c []
  | d :: t => if isPair c d then ⟨.operator, [c, d], t⟩ else single (lone c) c (d :: t)

/-- How a lexeme is read on from its first character. -/
inductive Opening where
  /-- The character is a token by itself. -/
  | alone (kind : TokenKind)
  | comparison
  /-- The character delimits a literal. -/
  | literal (kind : TokenKind)
  | number
  | word
deriving DecidableEq

/-- How the lexeme that starts with `c` and goes on in `t` is read. -/
def opening (c : Char) (t : List Char) : Opening :=
  if c = '(' then .alone .leftParen
  else if c = ')' then .alone .rightParen
  else if c = ',' then .alone .comma
  else if c = '.' then .alone .dot
  else if c = ';' then .alone .semicolon
  else if (c = '-' ∧ t.head? = some '-') ∨ (c = '/' ∧ t.head? = some '*') then .alone .comment
  else if c = '+' ∨ c = '-' ∨ c = '*' ∨ c = '/' ∨ c = '%' ∨ c = '=' then .alone .operator
  else if c = '<' ∨ c = '>' ∨ c = '!' ∨ c = '|' then .comparison
  else if c = '\x27' then .literal .string
  else if c = '\x22' then .literal .quotedIdentifier
  else if c.isDigit then .number
  else if isWordStart c then .word
  else .alone .illegal

/-- The lexeme that starts with `c`, which is no blank, and goes on in `t`. -/
def read (c : Char) (t : List Char) : Lexeme :=
  match opening c t with
  | .alone kind => single kind c t
  | .comparison => comparison c t
  | .literal kind => literal kind c t
  | .number => number c t
  | .word => word c t

/-! ## A lexeme takes a part of the text from its front -/

/-- The body of a literal with its closing delimiter, and the rest behind it, are what was read. -/
theorem closing?_append {delimiter : Char} {t body rest : List Char}
    (h : closing? delimiter t = some (body, rest)) : body ++ rest = t := by
  fun_induction closing? delimiter t generalizing body rest with
  | case1 => simp at h
  | case2 => simp at h; simp [h]
  | case3 => simp at h
  | case4 t ih =>
    simp only [Option.map_eq_some_iff, Prod.mk.injEq] at h
    obtain ⟨⟨b, r⟩, hs, rfl, rfl⟩ := h
    simp [ih hs]
  | case5 => simp at h; simp [← h.1, ← h.2]
  | case6 c d t hc ih =>
    simp only [Option.map_eq_some_iff, Prod.mk.injEq] at h
    obtain ⟨⟨b, r⟩, hs, rfl, rfl⟩ := h
    simp [ih hs]

/-- A literal and the rest are the text. -/
theorem literal_append (kind : TokenKind) (delimiter : Char) (t : List Char) :
    (literal kind delimiter t).chars ++ (literal kind delimiter t).rest = delimiter :: t := by
  unfold literal
  split
  · next h => simp [closing?_append h]
  · simp

/-- A number and the rest are the text. -/
theorem number_append (c : Char) (t : List Char) :
    (number c t).chars ++ (number c t).rest = c :: t := by
  have hsplit := List.takeWhile_append_dropWhile (p := Char.isDigit) (l := t)
  unfold number
  split
  · next r h => rw [h] at hsplit; simpa using hsplit
  · simp

/-- A comparison and the rest are the text. -/
theorem comparison_append (c : Char) (t : List Char) :
    (comparison c t).chars ++ (comparison c t).rest = c :: t := by
  unfold comparison
  split
  · rfl
  · split <;> rfl

/-- The characters of a lexeme and the text behind it are the text it was read from. -/
theorem read_append (c : Char) (t : List Char) :
    (read c t).chars ++ (read c t).rest = c :: t := by
  unfold read
  split
  · rfl
  · exact comparison_append c t
  · exact literal_append _ c t
  · exact number_append c t
  · simp [word]

/-- A lexeme is read from at least its first character. -/
theorem read_head (c : Char) (t : List Char) : ∃ cs, (read c t).chars = c :: cs := by
  unfold read
  split
  · exact ⟨_, rfl⟩
  · unfold comparison
    split
    · exact ⟨_, rfl⟩
    · split <;> exact ⟨_, rfl⟩
  · unfold literal
    split <;> exact ⟨_, rfl⟩
  · unfold number
    split <;> exact ⟨_, rfl⟩
  · exact ⟨_, rfl⟩

/-- The rest is shorter than the text. -/
theorem length_rest_le (c : Char) (t : List Char) : (read c t).rest.length ≤ t.length := by
  have happ := congrArg List.length (read_append c t)
  obtain ⟨cs, hcs⟩ := read_head c t
  rw [hcs] at happ
  simp only [List.length_append, List.length_cons] at happ
  omega

end Lexeme

namespace Token

/-- How many bytes of UTF-8 the characters take. -/
def byteSize (cs : List Char) : Nat := (String.ofList cs).utf8ByteSize

/-- The tokens of `cs`, which starts at byte `offset`. -/
def scanFrom (offset : Nat) (cs : List Char) : List Token :=
  match _h : cs.dropWhile isBlank with
  | [] => []
  | c :: t =>
    let start := offset + byteSize (cs.takeWhile isBlank)
    let lexeme := Lexeme.read c t
    ⟨lexeme.kind, String.ofList lexeme.chars, start⟩ ::
      scanFrom (start + byteSize lexeme.chars) lexeme.rest
termination_by cs.length
decreasing_by
  have hd := (List.dropWhile_sublist isBlank (l := cs)).length_le
  rw [_h, List.length_cons] at hd
  exact Nat.lt_of_le_of_lt (Lexeme.length_rest_le c t) hd

/-- The tokens of a text. -/
def scan (text : String) : List Token := scanFrom 0 text.toList

/-! ## Scanning step by step -/

/-- Blanks alone hold no token. -/
theorem scanFrom_of_blank {offset : Nat} {cs : List Char} (h : cs.dropWhile isBlank = []) :
    scanFrom offset cs = [] := by
  rw [scanFrom]
  split
  · rfl
  · next heq => rw [h] at heq; simp at heq

/-- Behind the blanks the first token starts, and the others behind it. -/
theorem scanFrom_of_cons {offset : Nat} {cs : List Char} {c : Char} {t : List Char}
    (h : cs.dropWhile isBlank = c :: t) :
    scanFrom offset cs =
      ⟨(Lexeme.read c t).kind, String.ofList (Lexeme.read c t).chars,
          offset + byteSize (cs.takeWhile isBlank)⟩ ::
        scanFrom (offset + byteSize (cs.takeWhile isBlank) + byteSize (Lexeme.read c t).chars)
          (Lexeme.read c t).rest := by
  rw [scanFrom]
  split
  · next heq => rw [h] at heq; simp at heq
  · next heq =>
    rw [h] at heq
    obtain ⟨rfl, rfl⟩ := List.cons.inj heq
    rfl

end Token

end DashQuery
