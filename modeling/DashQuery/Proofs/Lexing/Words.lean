import DashQuery.Proofs.Lexing.Append
import DashQuery.Text.Name
import Mathlib.Data.List.Forall2
import Mathlib.Data.List.TakeWhile

/-!
# The words of a text

A `Word` is a token without its place.  Where tokens stand does not matter to what
a statement says, so statements are described by their words, and `Reads text ws`
says that a text consists of the words `ws` and leaves no literal open.  It is
closed under the ways in which statement text is put together:

* `Reads.space`, `Reads.comma`   two texts with a blank or a comma between them
* `Reads.parens`, `Reads.call`   a text in parentheses, perhaps behind a function's name
* `Reads.intercalate`            any number of texts with a separator between them

The pieces from which it starts are keywords (`reads_keyword`), quoted names
(`reads_quote`), numbers (`reads_number`) and single lexemes (`reads_lexeme`).
-/

namespace DashQuery

/-- A token without its place. -/
structure Word where
  kind : TokenKind
  text : String
deriving DecidableEq

/-- The token without its place. -/
def Token.word (t : Token) : Word := ⟨t.kind, t.text⟩

namespace Word

/-- What the word says, without its delimiters. -/
def content (w : Word) : String := Token.content ⟨w.kind, w.text, 0⟩

/-- Whether the word is a literal that was not closed. -/
def isUnclosed (w : Word) : Bool := Token.isUnclosed ⟨w.kind, w.text, 0⟩

/-- A word of letters, digits and underscores. -/
def keyword (text : String) : Word := ⟨.identifier, text⟩

/-- A name between double quotes. -/
def quoted (name : String) : Word := ⟨.quotedIdentifier, Name.quote name⟩

/-- An operator. -/
def symbol (text : String) : Word := ⟨.operator, text⟩

/-- A whole number. -/
def number (n : Nat) : Word := ⟨.number, toString n⟩

/-- A comma. -/
def comma : Word := ⟨.comma, ","⟩

/-- A dot. -/
def dot : Word := ⟨.dot, "."⟩

/-- An opening parenthesis. -/
def leftParen : Word := ⟨.leftParen, "("⟩

/-- A closing parenthesis. -/
def rightParen : Word := ⟨.rightParen, ")"⟩

/-- The place of a parameter; no token kind has it, so it reads as a stray character. -/
def placeholder : Word := ⟨.illegal, "?"⟩

/-- Only an illegal word can be unclosed. -/
theorem isUnclosed_of_kind {w : Word} (h : w.kind ≠ .illegal) : w.isUnclosed = false := by
  simp [isUnclosed, Token.isUnclosed, h]

/-- A quoted name says the name. -/
theorem content_quoted (name : String) : (quoted name).content = name := by
  apply String.toList_inj.mp
  simp [content, Token.content, quoted, Token.inner, Name.quote]

end Word

/-- The words of a list of characters. -/
def wordsOf (cs : List Char) : List Word := (Token.scanFrom 0 cs).map Token.word

/-- The words of a text. -/
def words (text : String) : List Word := (Token.scan text).map Token.word

/-- The words of a text are those of its characters. -/
theorem words_eq (text : String) : words text = wordsOf text.toList := rfl

/-! ## Words do not depend on places -/

/-- The words are the same wherever a text is read from. -/
theorem map_word_scanFrom (n : Nat) (cs : List Char) :
    (Token.scanFrom n cs).map Token.word = wordsOf cs := by
  have hmove := Token.scanFrom_add 0 n cs
  rw [Nat.zero_add] at hmove
  -- a token that is moved is the same word
  rw [hmove, List.map_map]
  rfl

/-- No characters hold no words. -/
theorem wordsOf_nil : wordsOf [] = [] := by
  rw [wordsOf, Token.scanFrom_of_blank (List.dropWhile_nil), List.map_nil]

/-- A blank in front makes no difference. -/
theorem wordsOf_blank {c : Char} {cs : List Char} (h : isBlank c = true) :
    wordsOf (c :: cs) = wordsOf cs := by
  have hscan : Token.scanFrom 0 ([c] ++ cs) = Token.scanFrom (0 + Token.byteSize [c]) cs :=
    Token.scanFrom_blanks (by simpa using h)
  rw [List.singleton_append] at hscan
  rw [wordsOf, hscan, map_word_scanFrom]

/-- The first word is read off the front, the others off what is left. -/
theorem wordsOf_cons {c : Char} {t : List Char} (h : isBlank c = false) :
    wordsOf (c :: t) =
      ⟨(Lexeme.read c t).kind, String.ofList (Lexeme.read c t).chars⟩ ::
        wordsOf (Lexeme.read c t).rest := by
  have hdrop : (c :: t).dropWhile isBlank = c :: t := by
    rw [List.dropWhile_cons_of_neg (by simp [h])]
  rw [wordsOf, Token.scanFrom_of_cons hdrop, List.map_cons, map_word_scanFrom]
  rfl

/-- Two texts hold their words one behind the other, if nothing goes on from the first into the
second. -/
theorem wordsOf_append {a r : List Char} (ha : ∀ w ∈ wordsOf a, w.isUnclosed = false)
    (hr : Delimited r) : wordsOf (a ++ r) = wordsOf a ++ wordsOf r := by
  have hclosed : ∀ t ∈ Token.scanFrom 0 a, t.isUnclosed = false := by
    intro t ht
    exact ha t.word (List.mem_map_of_mem ht)
  rw [wordsOf, Token.scanFrom_append hclosed hr, List.map_append, map_word_scanFrom,
    map_word_scanFrom]

/-- A text is delimited if its front is a delimiter. -/
theorem delimited_append {a b : String} {c : Char} {t : List Char} (ha : a.toList = c :: t)
    (hc : isDelimiter c = true) : Delimited (a ++ b).toList := by
  rw [String.toList_append, ha]
  exact delimited_cons hc

/-! ## Texts that can be read piece by piece -/

/-- The text consists of the words, and none of them is a literal that goes on behind it. -/
structure Reads (text : String) (ws : List Word) : Prop where
  words_eq : words text = ws
  closed : ∀ w ∈ ws, w.isUnclosed = false

namespace Reads

variable {a b : String} {u v : List Word}

/-- The empty text holds no words. -/
theorem empty : Reads "" [] := ⟨wordsOf_nil, by simp⟩

/-- A text that can be read before a delimited one. -/
theorem append (ha : Reads a u) (hb : Reads b v) (hd : Delimited b.toList) :
    Reads (a ++ b) (u ++ v) where
  words_eq := by
    have hclosed : ∀ w ∈ wordsOf a.toList, w.isUnclosed = false := by
      -- no literal of the first text goes on into the second
      rw [← DashQuery.words_eq, ha.words_eq]
      exact ha.closed
    rw [DashQuery.words_eq, String.toList_append, wordsOf_append hclosed hd,
      ← DashQuery.words_eq, ← DashQuery.words_eq, ha.words_eq, hb.words_eq]
  closed := by
    intro w hw
    rcases List.mem_append.mp hw with hw | hw
    · exact ha.closed w hw
    · exact hb.closed w hw

/-- A character that is a token whatever follows it, before a text. -/
private theorem single {c : Char} {w : Word} (hb : isBlank c = false)
    (hread : ∀ t, Lexeme.read c t = ⟨w.kind, [c], t⟩) (hw : w.text = String.ofList [c])
    (hu : w.isUnclosed = false) (ha : Reads a u) : Reads (String.ofList [c] ++ a) (w :: u) where
  words_eq := by
    rw [DashQuery.words_eq, String.toList_append, String.toList_ofList, List.singleton_append,
      wordsOf_cons hb, hread, ← DashQuery.words_eq, ha.words_eq, ← hw]
  closed := by
    intro x hx
    rcases List.mem_cons.mp hx with rfl | hx
    · exact hu
    · exact ha.closed x hx

/-- A blank in front of a text makes no difference. -/
theorem blank (ha : Reads a u) : Reads (" " ++ a) u where
  words_eq := by
    rw [DashQuery.words_eq, String.toList_append]
    exact (wordsOf_blank (by decide)).trans ha.words_eq
  closed := ha.closed

/-- Two texts with a space between them. -/
theorem space (ha : Reads a u) (hb : Reads b v) : Reads (a ++ " " ++ b) (u ++ v) := by
  rw [String.append_assoc]
  exact ha.append hb.blank (delimited_append rfl (by decide))

/-- Two texts with a comma between them. -/
theorem comma (ha : Reads a u) (hb : Reads b v) :
    Reads (a ++ ", " ++ b) (u ++ Word.comma :: v) := by
  -- the comma ends the text before it, the space behind it is a blank
  have hcomma : Reads ("," ++ (" " ++ b)) (Word.comma :: v) :=
    single (c := ',') (by decide) (fun _ => rfl) rfl (by decide) hb.blank
  have htext : ", " ++ b = "," ++ (" " ++ b) := by
    rw [← String.append_assoc]
    rfl
  rw [String.append_assoc, htext]
  exact ha.append hcomma (delimited_append rfl (by decide))

/-- A text in parentheses. -/
theorem parens (ha : Reads a u) :
    Reads ("(" ++ a ++ ")") (Word.leftParen :: (u ++ [Word.rightParen])) := by
  have hright : Reads (")" ++ "") [Word.rightParen] :=
    single (c := ')') (by decide) (fun _ => rfl) rfl (by decide) empty
  rw [String.append_empty] at hright
  rw [String.append_assoc]
  exact single (c := '(') (by decide) (fun _ => rfl) rfl (by decide)
    (ha.append hright (delimited_cons (c := ')') (by decide)))

/-- A call of the function that is named by the first text. -/
theorem call (ha : Reads a u) (hb : Reads b v) :
    Reads (a ++ "(" ++ b ++ ")") (u ++ Word.leftParen :: (v ++ [Word.rightParen])) := by
  have htext : a ++ "(" ++ b ++ ")" = a ++ ("(" ++ b ++ ")") := by
    simp only [String.append_assoc]
  rw [htext]
  refine ha.append hb.parens ?_
  rw [String.append_assoc]
  exact delimited_append rfl (by decide)

/-- Texts with a separator between them, if two texts with it between them can be read. -/
theorem intercalate {separator : String} {sep : List Word}
    (hsep : ∀ {a b u v}, Reads a u → Reads b v → Reads (a ++ separator ++ b) (u ++ sep ++ v))
    {texts : List String} {wss : List (List Word)} (h : List.Forall₂ Reads texts wss) :
    Reads (separator.intercalate texts) (sep.intercalate wss) := by
  induction h with
  | nil =>
    rw [String.intercalate_nil, List.intercalate_nil]
    exact empty
  | cons hx hrest ih =>
    -- the separator stands only in front of a further text
    cases hrest with
    | nil =>
      rw [String.intercalate_singleton, List.intercalate_singleton]
      exact hx
    | cons _ _ =>
      rw [String.intercalate_cons_cons, List.intercalate_cons_cons]
      exact hsep hx ih

end Reads

/-! ## The pieces of statement text -/

/-- A text that is one lexeme. -/
theorem reads_lexeme {text : String} {kind : TokenKind} {c : Char} {t : List Char}
    (htext : text.toList = c :: t) (hb : isBlank c = false)
    (hread : Lexeme.read c t = ⟨kind, c :: t, []⟩)
    (hu : Word.isUnclosed ⟨kind, text⟩ = false) : Reads text [⟨kind, text⟩] where
  words_eq := by
    have hself : String.ofList (c :: t) = text := by rw [← htext, String.ofList_toList]
    rw [words_eq, htext, wordsOf_cons hb, hread, wordsOf_nil, hself]
  closed := by simpa using hu

/-- The characters that open a lexeme of their own: punctuation, operators, quotes. -/
private def marks : List Char :=
  ['(', ')', ',', '.', ';', '-', '/', '+', '*', '%', '=', '<', '>', '!', '|', '\x27', '\x22']

/-- Without a mark in front a lexeme is a number, a word or a stray character. -/
private theorem opening_of_not_mem_marks {c : Char} {t : List Char} (h : c ∉ marks) :
    Lexeme.opening c t =
      if c.isDigit then .number else if Lexeme.isWordStart c then .word else .alone .illegal := by
  simp only [marks, List.mem_cons, List.not_mem_nil, not_or, or_false] at h
  -- every test but the last two asks for one of the marks
  simp only [Lexeme.opening, h, false_and, or_self, if_false]

/-- No mark is a word character. -/
private theorem not_mem_marks_of_isWordChar {c : Char} (h : Lexeme.isWordChar c = true) :
    c ∉ marks := by
  -- each mark by itself is no word character
  have hmarks : marks.all (fun d => !Lexeme.isWordChar d) = true := by decide
  intro hmem
  have hc := List.all_eq_true.mp hmarks c hmem
  rw [h] at hc
  exact absurd hc (by decide)

/-- No word character is blank, for a blank is a delimiter. -/
private theorem isBlank_of_isWordChar {c : Char} (h : Lexeme.isWordChar c = true) :
    isBlank c = false := by
  cases hb : isBlank c with
  | false => rfl
  | true =>
    rw [isWordChar_of_isDelimiter (by simp [isDelimiter, hb])] at h
    exact absurd h (by decide)

/-- No word starts with a digit. -/
private theorem isDigit_of_isWordStart {c : Char} (h : Lexeme.isWordStart c = true) :
    c.isDigit = false := by
  rw [← Bool.not_eq_true]
  intro hd
  rw [Char.isDigit_iff_toNat] at hd
  have hnine : '9'.toNat = 57 := by decide
  simp only [Lexeme.isWordStart, Bool.or_eq_true, beq_iff_eq] at h
  -- a letter or an underscore, and neither is between the digits' codes
  cases h with
  | inl halpha =>
    have hbounds := isAlpha_iff_toNat.mp halpha
    omega
  | inr hunderscore =>
    subst hunderscore
    exact absurd hd (by decide)

/-- Whether a text is one word of letters, digits and underscores. -/
def isWord (text : String) : Bool :=
  match text.toList with
  | [] => false
  | c :: t => Lexeme.isWordStart c && t.all Lexeme.isWordChar

/-- A word is one lexeme, a keyword. -/
theorem reads_keyword (text : String) (h : isWord text = true := by decide) :
    Reads text [Word.keyword text] := by
  unfold isWord at h
  split at h
  · exact absurd h (by decide)
  · next c t htext =>
    obtain ⟨hstart, hall⟩ := Bool.and_eq_true_iff.mp h
    have hchar : Lexeme.isWordChar c = true := by
      simp only [Lexeme.isWordStart, Bool.or_eq_true] at hstart
      simp only [Lexeme.isWordChar, Char.isAlphanum, Bool.or_eq_true]
      exact hstart.imp .inl id
    -- the first character opens a word, as it is no mark and no digit
    have hopen : Lexeme.opening c t = .word := by
      rw [opening_of_not_mem_marks (not_mem_marks_of_isWordChar hchar),
        isDigit_of_isWordStart hstart, hstart]
      rfl
    -- the run of word characters is all of the text, so nothing is left behind it
    have htake : t.takeWhile Lexeme.isWordChar = t := List.takeWhile_eq_self_iff.mpr
      (List.all_eq_true.mp hall)
    have hdrop : t.dropWhile Lexeme.isWordChar = [] := List.dropWhile_eq_nil_iff.mpr
      (List.all_eq_true.mp hall)
    have hclosed : (Word.keyword text).isUnclosed = false :=
      Word.isUnclosed_of_kind (by simp [Word.keyword])
    refine reads_lexeme htext (isBlank_of_isWordChar hchar) ?_ hclosed
    simp only [Lexeme.read, hopen, Lexeme.word, htake, hdrop]

/-- A number's text is its digits. -/
theorem toList_toString (n : Nat) : (toString n).toList = Nat.toDigits 10 n := by
  rw [Nat.toString_eq_ofList_toDigits, String.toList_ofList]

/-- A number is written in decimal digits. -/
theorem isDigit_of_mem_toString {n : Nat} {c : Char} (h : c ∈ (toString n).toList) :
    c.isDigit = true := by
  rw [toList_toString] at h
  exact Nat.isDigit_of_mem_toDigits (by decide) (by decide) h

/-- A number is one lexeme. -/
theorem reads_number (n : Nat) : Reads (toString n) [Word.number n] := by
  have htext := toList_toString n
  have hdigit : ∀ c ∈ Nat.toDigits 10 n, c.isDigit = true := fun c hc =>
    isDigit_of_mem_toString (htext ▸ hc)
  cases hd : Nat.toDigits 10 n with
  | nil => exact absurd hd Nat.toDigits_ne_nil
  | cons c t =>
    rw [hd] at hdigit
    have hc : c.isDigit = true := hdigit c List.mem_cons_self
    -- a digit is a word character, and so no mark and no blank
    have hchar : Lexeme.isWordChar c = true := by
      simp [Lexeme.isWordChar, Char.isAlphanum, hc]
    -- so the first character opens a number, and all others belong to it
    have hopen : Lexeme.opening c t = .number := by
      rw [opening_of_not_mem_marks (not_mem_marks_of_isWordChar hchar), hc]
      rfl
    have hrest : ∀ d ∈ t, d.isDigit = true := fun d hd => hdigit d (List.mem_cons_of_mem _ hd)
    have htake : t.takeWhile Char.isDigit = t := List.takeWhile_eq_self_iff.mpr hrest
    have hdrop : t.dropWhile Char.isDigit = [] := List.dropWhile_eq_nil_iff.mpr hrest
    have hclosed : (Word.number n).isUnclosed = false :=
      Word.isUnclosed_of_kind (by simp [Word.number])
    refine reads_lexeme (htext.trans hd) (isBlank_of_isWordChar hchar) ?_ hclosed
    simp only [Lexeme.read, hopen, Lexeme.number, htake, hdrop]

/-! ## Quoted names -/

/-- The double quote is on no valid name. -/
theorem Name.quoteMark_not_mem {name : String} (h : Name.isValid name = true) :
    Name.quoteMark ∉ name.toList := by
  intro hmem
  have hchar := (Name.isValid_iff.mp h).2 _ hmem
  rw [Name.isNameChar_quoteMark] at hchar
  exact absurd hchar (by decide)

/-- A literal without its delimiter inside is closed by the first one. -/
private theorem closing?_of_not_mem {delimiter : Char} {cs r : List Char}
    (h : delimiter ∉ cs) (hr : ∀ c ∈ r.head?, c ≠ delimiter) :
    Lexeme.closing? delimiter (cs ++ delimiter :: r) = some (cs ++ [delimiter], r) := by
  induction cs with
  | nil =>
    cases r with
    | nil => simp [Lexeme.closing?]
    | cons d ds =>
      have hd := hr d (by simp)
      simp [Lexeme.closing?, hd]
  | cons c cs ih =>
    have hc : c ≠ delimiter := fun heq => h (heq ▸ List.mem_cons_self)
    have hrec := ih fun hmem => h (List.mem_cons_of_mem _ hmem)
    -- the reader looks two characters ahead, so the tail is taken apart as well
    cases cs with
    | nil =>
      rw [List.nil_append] at hrec
      simp [Lexeme.closing?, hc, hrec]
    | cons d ds =>
      rw [List.cons_append] at hrec
      simp [Lexeme.closing?, hc, hrec]

/-- A quoted name is one word before any text but one that begins with a quote. -/
private theorem wordsOf_quote {name : String} {r : List Char} (h : Name.isValid name = true)
    (hr : ∀ c ∈ r.head?, c ≠ Name.quoteMark) :
    wordsOf ((Name.quote name).toList ++ r) = Word.quoted name :: wordsOf r := by
  have htext : (Name.quote name).toList ++ r =
      Name.quoteMark :: (name.toList ++ Name.quoteMark :: r) := by
    simp [Name.quote, Name.quoteMark]
  have hread : Lexeme.read Name.quoteMark (name.toList ++ Name.quoteMark :: r) =
      ⟨.quotedIdentifier, (Name.quote name).toList, r⟩ := by
    -- the name holds no quote, so the literal ends where the name does
    have hclose := closing?_of_not_mem (Name.quoteMark_not_mem h) hr
    have hopen : Lexeme.opening Name.quoteMark (name.toList ++ Name.quoteMark :: r) =
        .literal .quotedIdentifier := rfl
    simp only [Lexeme.read, hopen, Lexeme.literal, hclose]
    simp [Name.quote, Name.quoteMark]
  rw [htext, wordsOf_cons (by decide), hread, String.ofList_toList]
  rfl

/-- A quoted name is one lexeme. -/
theorem reads_quote {name : String} (h : Name.isValid name = true) :
    Reads (Name.quote name) [Word.quoted name] where
  words_eq := by
    have hwords := wordsOf_quote (r := []) h (by simp)
    rwa [List.append_nil, wordsOf_nil] at hwords
  closed := by
    intro w hw
    rw [List.mem_singleton.mp hw]
    exact Word.isUnclosed_of_kind (by simp [Word.quoted])

/-- Two quoted names with a dot between them. -/
theorem reads_qualified {qualifier column : String} (hq : Name.isValid qualifier = true)
    (hc : Name.isValid column = true) :
    Reads (Name.quote qualifier ++ "." ++ Name.quote column)
      [Word.quoted qualifier, Word.dot, Word.quoted column] where
  words_eq := by
    -- the dot ends the first name, and the second one stands behind it
    have hdot : wordsOf ('.' :: (Name.quote column).toList) =
        Word.dot :: wordsOf (Name.quote column).toList := wordsOf_cons (by decide)
    rw [words_eq, String.toList_append, String.toList_append, List.append_assoc,
      wordsOf_quote hq (by simp [Name.quoteMark])]
    change Word.quoted qualifier :: wordsOf ('.' :: (Name.quote column).toList) = _
    rw [hdot, ← words_eq, (reads_quote hc).words_eq]
  closed := by
    intro w hw
    apply Word.isUnclosed_of_kind
    simp only [List.mem_cons, List.not_mem_nil, or_false] at hw
    rcases hw with rfl | rfl | rfl <;> simp [Word.quoted, Word.dot]

end DashQuery
