import DashQuery.Expression.Token
import DashQuery.Proofs.Lists

/-!
# Scanning a text in parts

A statement is put together from pieces, and its tokens are read off the whole.
`scanFrom_append` says when the tokens of the whole are the tokens of the pieces:
the front piece must not end inside a literal, and the piece behind it must begin
with a character that no token goes on with (`Delimited`).  Tokens keep their
places, so the theorem is about `scanFrom` and shifts the start of the second
piece by the bytes of the first.

A blank is such a character, so what a text says does not change when another one
is put behind it with a blank between them (`scan_space_append_iff`), and an open
literal is the only thing that can keep it from that.
-/

namespace DashQuery

/-- A character with which no token of another start goes on. -/
def isDelimiter (c : Char) : Bool := isBlank c || c == '(' || c == ')' || c == ','

/-- Nothing, or a text that begins with a delimiter. -/
def Delimited (cs : List Char) : Prop := ∀ c ∈ cs.head?, isDelimiter c = true

/-- A text that begins with a delimiter is delimited. -/
theorem delimited_cons {c : Char} {cs : List Char} (h : isDelimiter c = true) :
    Delimited (c :: cs) := by
  intro d hd
  simp only [List.head?_cons, Option.mem_some_iff] at hd
  exact hd ▸ h

/-- A test that no delimiter passes fails at the head of a delimited text. -/
private theorem Delimited.head_not {p : Char → Bool} {cs : List Char} (h : Delimited cs)
    (hp : ∀ c, isDelimiter c = true → p c = false) : ∀ c ∈ cs.head?, p c = false :=
  fun c hc => hp c (h c hc)

/-! ## Characters that are no delimiters -/

/-- The four ways to be a delimiter, by code point where it is a blank below 128. -/
private theorem isDelimiter_cases {c : Char} (h : isDelimiter c = true) :
    isBlank c = true ∨ c = '(' ∨ c = ')' ∨ c = ',' := by
  simpa [isDelimiter, or_assoc] using h

/-- An ASCII letter or digit, or a mark between the blanks and the parentheses, is no blank. -/
theorem isBlank_eq_false {c : Char} (h : 33 ≤ c.toNat) (h' : c.toNat < 128) :
    isBlank c = false := by
  rw [← Bool.not_eq_true, isBlank_lt_128 h']
  omega

/-- The letters are two runs of code points. -/
theorem isAlpha_iff_toNat {c : Char} : c.isAlpha = true ↔
    (65 ≤ c.toNat ∧ c.toNat ≤ 90) ∨ (97 ≤ c.toNat ∧ c.toNat ≤ 122) := by
  show (decide (65 ≤ c.val ∧ c.val ≤ 90) ||
    (decide (97 ≤ c.val) && decide (c.val ≤ 122))) = true ↔ _
  simp only [Bool.or_eq_true, Bool.and_eq_true, decide_eq_true_eq, UInt32.le_iff_toNat_le]
  exact Iff.rfl

/-- No letter and no digit is a blank. -/
theorem isBlank_eq_false_of_isAlphanum {c : Char} (h : c.isAlphanum = true) :
    isBlank c = false := by
  have hcases : c.isAlpha = true ∨ c.isDigit = true := (Bool.or_eq_true _ _).mp h
  rw [isAlpha_iff_toNat, Char.isDigit_iff_toNat] at hcases
  have hzero : '0'.toNat = 48 := by decide
  have hnine : '9'.toNat = 57 := by decide
  apply isBlank_eq_false <;> omega

/-- No word goes on with a delimiter. -/
theorem isWordChar_of_isDelimiter {c : Char} (h : isDelimiter c = true) :
    Lexeme.isWordChar c = false := by
  -- a blank, or one of the three other delimiters
  rcases isDelimiter_cases h with hb | rfl | rfl | rfl
  · by_cases ha : c.isAlphanum = true
    · rw [isBlank_eq_false_of_isAlphanum ha] at hb
      exact absurd hb (by decide)
    · have hu : (c == '_') = false := by
        rw [beq_eq_false_iff_ne]
        rintro rfl
        exact absurd hb (by decide)
      simp [Lexeme.isWordChar, ha, hu]
  all_goals decide

/-- No number goes on with a delimiter. -/
theorem isDigit_of_isDelimiter {c : Char} (h : isDelimiter c = true) : c.isDigit = false := by
  have hw := isWordChar_of_isDelimiter h
  simp only [Lexeme.isWordChar, Char.isAlphanum, Bool.or_eq_false_iff] at hw
  exact hw.1.2

/-- A delimiter is none of the characters that stand in a literal's or an operator's way. -/
theorem ne_of_isDelimiter {c d : Char} (h : isDelimiter c = true) (hd : isDelimiter d = false) :
    c ≠ d := by
  rintro rfl
  rw [h] at hd
  exact absurd hd (by decide)

/-- The character that stands on both sides of a literal of this kind. -/
def TokenKind.delimiter? : TokenKind → Option Char
  | .string => some '\x27'
  | .quotedIdentifier => some '\x22'
  | _ => none

/-- Literals are delimited by quotes of either kind. -/
theorem TokenKind.quote_of_delimiter? {kind : TokenKind} {c : Char}
    (h : kind.delimiter? = some c) : c = '\x27' ∨ c = '\x22' := by
  unfold delimiter? at h
  split at h
  · exact .inl (Option.some.inj h).symm
  · exact .inr (Option.some.inj h).symm
  · cases h

namespace Token

/-- Whether the token is a literal that was not closed; such a token takes all that follows. -/
def isUnclosed (t : Token) : Bool :=
  t.kind == .illegal && (t.text.toList.head? == some '\x27' || t.text.toList.head? == some '\x22')

end Token

namespace Lexeme

/-! ## Text behind a lexeme -/

/-- Text behind a closed literal stays behind it unless it begins with the delimiter. -/
theorem closing?_append_right {delimiter : Char} {t body rest r : List Char}
    (h : closing? delimiter t = some (body, rest)) (hr : ∀ c ∈ r.head?, c ≠ delimiter) :
    closing? delimiter (t ++ r) = some (body, rest ++ r) := by
  fun_induction closing? delimiter t generalizing body rest with
  | case1 => simp at h
  | case2 =>
    -- the literal ends where the piece ends, so the next character is looked at
    obtain ⟨rfl, rfl⟩ := Prod.mk.inj (Option.some.inj h)
    cases r with
    | nil => simp [closing?]
    | cons c cs =>
      have hc := hr c (by simp)
      simp [closing?, hc]
  | case3 => simp at h
  | case4 t ih =>
    obtain ⟨⟨b, s⟩, hs, heq⟩ := Option.map_eq_some_iff.mp h
    obtain ⟨rfl, rfl⟩ := Prod.mk.inj heq
    -- a doubled delimiter is one character of the body, and the piece goes on behind it
    simp [closing?, ih hs]
  | case5 d t hd =>
    obtain ⟨rfl, rfl⟩ := Prod.mk.inj (Option.some.inj h)
    simp [closing?, hd]
  | case6 c d t hc ih =>
    obtain ⟨⟨b, s⟩, hs, heq⟩ := Option.map_eq_some_iff.mp h
    obtain ⟨rfl, rfl⟩ := Prod.mk.inj heq
    have hrec := ih hs
    rw [List.cons_append] at hrec
    simp [closing?, hc, hrec]

/-- A literal that is closed ends there, whatever stands behind it. -/
theorem literal_append_right {kind : TokenKind} {delimiter : Char} {t r : List Char}
    (hopen : (closing? delimiter t).isSome = true) (hr : ∀ c ∈ r.head?, c ≠ delimiter) :
    literal kind delimiter (t ++ r) =
      { literal kind delimiter t with rest := (literal kind delimiter t).rest ++ r } := by
  obtain ⟨⟨body, rest⟩, h⟩ := Option.isSome_iff_exists.mp hopen
  simp only [literal, h, closing?_append_right h hr]

/-- A number ends in front of a delimiter. -/
theorem number_append_right {c : Char} {t r : List Char} (hr : Delimited r) :
    number c (t ++ r) = { number c t with rest := (number c t).rest ++ r } := by
  have hdigit := hr.head_not fun _ h => isDigit_of_isDelimiter h
  have hdrop : (t ++ r).dropWhile Char.isDigit = t.dropWhile Char.isDigit ++ r :=
    dropWhile_append_of_head hdigit
  have htake : (t ++ r).takeWhile Char.isDigit = t.takeWhile Char.isDigit :=
    takeWhile_append_of_head hdigit
  unfold number
  rw [hdrop, htake]
  cases hd : t.dropWhile Char.isDigit with
  | nil =>
    -- the digits reach the end of the piece, and what follows is no point
    cases r with
    | nil => simp
    | cons d ds =>
      have hpoint : d ≠ '.' := ne_of_isDelimiter (hr d (by simp)) (by decide)
      simp only [List.nil_append]
      split
      · next h => exact absurd (List.cons.inj h).1 hpoint
      · rfl
  | cons d ds =>
    -- a point and the digits behind it belong to the number
    by_cases hpoint : d = '.'
    · subst hpoint
      simp only [List.cons_append, takeWhile_append_of_head hdigit,
        dropWhile_append_of_head hdigit]
    · simp only [List.cons_append]
      split
      · next h => exact absurd (List.cons.inj h).1 hpoint
      · split
        · next h => exact absurd (List.cons.inj h).1 hpoint
        · rfl

/-- A word ends in front of a delimiter. -/
theorem word_append_right {c : Char} {t r : List Char} (hr : Delimited r) :
    word c (t ++ r) = { word c t with rest := (word c t).rest ++ r } := by
  have hword := hr.head_not fun _ h => isWordChar_of_isDelimiter h
  simp only [word, takeWhile_append_of_head hword, dropWhile_append_of_head hword]

/-- A comparison ends in front of a delimiter. -/
theorem comparison_append_right {c : Char} {t r : List Char} (hr : Delimited r) :
    comparison c (t ++ r) = { comparison c t with rest := (comparison c t).rest ++ r } := by
  -- only the character right behind the operator can make it longer
  cases t with
  | cons d ds =>
    simp only [List.cons_append, comparison]
    split <;> rfl
  | nil =>
    cases r with
    | nil => rfl
    | cons d ds =>
      have hd : isDelimiter d = true := hr d (by simp)
      have hpair : isPair c d = false := by
        have h1 := ne_of_isDelimiter hd (d := '=') (by decide)
        have h2 := ne_of_isDelimiter hd (d := '>') (by decide)
        have h3 := ne_of_isDelimiter hd (d := '|') (by decide)
        simp [isPair, h1, h2, h3]
      simp [comparison, hpair, single]

/-- How a lexeme opens does not depend on what stands behind a delimiter. -/
theorem opening_append_right {c : Char} {t r : List Char} (hr : Delimited r) :
    opening c (t ++ r) = opening c t := by
  cases t with
  | cons d ds => rfl
  | nil =>
    cases r with
    | nil => rfl
    | cons d ds =>
      -- the character behind the first one matters only to the two openings of a comment
      have hd : isDelimiter d = true := hr d (by simp)
      have h1 := ne_of_isDelimiter hd (d := '-') (by decide)
      have h2 := ne_of_isDelimiter hd (d := '*') (by decide)
      have hcons : ¬((c = '-' ∧ ([] ++ d :: ds).head? = some '-') ∨
          (c = '/' ∧ ([] ++ d :: ds).head? = some '*')) := by simp [h1, h2]
      have hnil : ¬((c = '-' ∧ ([] : List Char).head? = some '-') ∨
          (c = '/' ∧ ([] : List Char).head? = some '*')) := by simp
      unfold opening
      rw [if_neg hcons, if_neg hnil]

/-- Whether a lexeme may open so with `c`: a literal with its own delimiter, and a single character
with no literal's kind. -/
def Opening.Fits (c : Char) : Opening → Prop
  | .alone kind => kind.delimiter? = none
  | .literal kind => kind.delimiter? = some c
  | .comparison | .number | .word => True

/-- Whichever way is taken has to fit. -/
private theorem Opening.Fits.ite {p : Prop} [Decidable p] {o x : Opening} {c : Char}
    (ho : p → o.Fits c) (hx : x.Fits c) : (if p then o else x).Fits c := by
  split
  · next hp => exact ho hp
  · exact hx

/-- A lexeme opens in a way that fits its first character. -/
theorem opening_fits (c : Char) (t : List Char) : (opening c t).Fits c := by
  unfold opening
  -- single characters, comments and arithmetic come first, then comparisons, then the quotes
  iterate 7 refine .ite (fun _ => rfl) ?_
  refine .ite (fun _ => trivial) ?_
  refine .ite (fun h => by rw [h]; rfl) ?_
  refine .ite (fun h => by rw [h]; rfl) ?_
  exact .ite (fun _ => trivial) (.ite (fun _ => trivial) rfl)

/-- A literal starts with the delimiter of its kind. -/
theorem opening_eq_literal {c : Char} {t : List Char} {kind : TokenKind}
    (h : opening c t = .literal kind) : kind.delimiter? = some c := by
  have hfits := opening_fits c t
  rwa [h] at hfits

/-- A character that is a token by itself is no literal. -/
theorem opening_eq_alone {c : Char} {t : List Char} {kind : TokenKind}
    (h : opening c t = .alone kind) : kind.delimiter? = none := by
  have hfits := opening_fits c t
  rwa [h] at hfits

/-- A literal that is not closed takes all of the text. -/
theorem read_open {c : Char} {t : List Char} (hquote : c = '\x27' ∨ c = '\x22')
    (h : (read c t).kind = .illegal) :
    closing? c t = none ∧ read c t = ⟨.illegal, c :: t, []⟩ := by
  have hread : read c t = literal (if c = '\x27' then .string else .quotedIdentifier) c t := by
    rcases hquote with rfl | rfl <;> rfl
  rw [hread] at h ⊢
  unfold literal at h ⊢
  split at h
  · -- a closed literal is of its own kind
    change (if c = '\x27' then TokenKind.string else .quotedIdentifier) = .illegal at h
    split at h <;> cases h
  · next hnone => exact ⟨hnone, rfl⟩

/-- A lexeme that is no unclosed literal is read the same before a delimited text. -/
theorem read_append_right {c : Char} {t r : List Char} (hr : Delimited r)
    (hclosed : (read c t).kind = .illegal → c ≠ '\x27' ∧ c ≠ '\x22') :
    read c (t ++ r) = { read c t with rest := (read c t).rest ++ r } := by
  unfold read at hclosed ⊢
  rw [opening_append_right hr]
  cases ho : opening c t with
  | alone kind => rfl
  -- what the lexeme looks at behind its end is a delimiter or nothing
  | comparison => exact comparison_append_right hr
  | number => exact number_append_right hr
  | word => exact word_append_right hr
  | literal kind =>
    have hquote := TokenKind.quote_of_delimiter? (opening_eq_literal ho)
    -- a literal that is not closed would be illegal and start with a quote
    have hopen : (closing? c t).isSome = true := by
      cases hc : closing? c t with
      | some split => rfl
      | none =>
        have hne := hclosed (by simp only [ho, literal, hc])
        exact (hquote.elim hne.1 hne.2).elim
    apply literal_append_right hopen
    intro d hd
    apply ne_of_isDelimiter (hr d hd)
    rcases hquote with rfl | rfl <;> decide

end Lexeme

namespace Token

/-! ## Scanning a text in two parts -/

/-- The size of two texts is the sum of their sizes. -/
theorem byteSize_append (a b : List Char) : byteSize (a ++ b) = byteSize a + byteSize b := by
  simp [byteSize, String.ofList_append]

/-- Blanks in front only shift the tokens. -/
theorem scanFrom_blanks {n : Nat} {bs cs : List Char} (h : ∀ c ∈ bs, isBlank c = true) :
    scanFrom n (bs ++ cs) = scanFrom (n + byteSize bs) cs := by
  have hdrop : (bs ++ cs).dropWhile isBlank = cs.dropWhile isBlank :=
    List.dropWhile_append_of_pos h
  have htake : (bs ++ cs).takeWhile isBlank = bs ++ cs.takeWhile isBlank :=
    List.takeWhile_append_of_pos h
  -- either nothing stands behind the blanks, or the first token does
  cases hcs : cs.dropWhile isBlank with
  | nil => rw [scanFrom_of_blank hcs, scanFrom_of_blank (hdrop.trans hcs)]
  | cons c t =>
    rw [scanFrom_of_cons hcs, scanFrom_of_cons (hdrop.trans hcs), htake, byteSize_append,
      ← Nat.add_assoc]

/-- A lexeme is an unclosed literal exactly if it starts with a quote and is illegal. -/
private theorem isUnclosed_read {c : Char} {t : List Char} {start : Nat}
    (h : (Token.mk (Lexeme.read c t).kind (String.ofList (Lexeme.read c t).chars)
      start).isUnclosed = false) :
    (Lexeme.read c t).kind = .illegal → c ≠ '\x27' ∧ c ≠ '\x22' := by
  obtain ⟨cs, hcs⟩ := Lexeme.read_head c t
  intro hk
  simpa [isUnclosed, hk, hcs] using h

/-- The blanks in front of a text with a token are all in front of that token. -/
private theorem span_append_of_cons {a r : List Char} {c : Char} {t : List Char}
    (ha : a.dropWhile isBlank = c :: t) :
    (a ++ r).dropWhile isBlank = c :: (t ++ r) ∧
      (a ++ r).takeWhile isBlank = a.takeWhile isBlank := by
  have hlen := congrArg List.length (List.takeWhile_append_dropWhile (p := isBlank) (l := a))
  rw [ha, List.length_append, List.length_cons] at hlen
  constructor
  · rw [List.dropWhile_append, ha]
    rfl
  · rw [List.takeWhile_append, if_neg (by omega)]

/-- The tokens of a text without unclosed literals come first when a delimited text is put
behind it, and the tokens of the second text follow in their new place. -/
theorem scanFrom_append {n : Nat} {a r : List Char}
    (hclosed : ∀ t ∈ scanFrom n a, t.isUnclosed = false) (hr : Delimited r) :
    scanFrom n (a ++ r) = scanFrom n a ++ scanFrom (n + byteSize a) r := by
  cases ha : a.dropWhile isBlank with
  | nil =>
    -- a front piece of blanks holds no token
    have hblank : ∀ c ∈ a, isBlank c = true := by
      have hall := List.all_takeWhile (p := isBlank) (l := a)
      have hself := List.takeWhile_append_dropWhile (p := isBlank) (l := a)
      rw [ha, List.append_nil] at hself
      rw [hself] at hall
      exact List.all_eq_true.mp hall
    rw [scanFrom_blanks hblank, scanFrom_of_blank ha, List.nil_append]
  | cons c t =>
    have hsplit := List.takeWhile_append_dropWhile (p := isBlank) (l := a)
    have hlen := congrArg List.length hsplit
    rw [ha, List.length_append, List.length_cons] at hlen
    obtain ⟨hdrop, htake⟩ := span_append_of_cons (r := r) ha
    rw [scanFrom_of_cons ha] at hclosed ⊢
    -- the first lexeme ends where it did before
    have hread := Lexeme.read_append_right (c := c) (t := t) hr
      (isUnclosed_read (hclosed _ List.mem_cons_self))
    -- the bytes of the front piece are those before the lexeme, its own, and those behind it
    have hbytes : byteSize a = byteSize (a.takeWhile isBlank) +
        byteSize (Lexeme.read c t).chars + byteSize (Lexeme.read c t).rest := by
      rw [Nat.add_assoc, ← byteSize_append, Lexeme.read_append, ← ha, ← byteSize_append, hsplit]
    -- the recursion is on what the first lexeme of the front piece leaves
    have hlt : (Lexeme.read c t).rest.length < a.length := by
      have hle := Lexeme.length_rest_le c t
      omega
    -- the first token, and then those of the rest
    rw [scanFrom_of_cons hdrop, hread, htake, List.cons_append]
    simp only
    rw [scanFrom_append (fun u hu => hclosed u (List.mem_cons_of_mem _ hu)) hr, hbytes]
    simp only [Nat.add_assoc]
termination_by a.length

/-! ## Two texts with a blank between them -/

/-- The token, `k` bytes further on. -/
def shift (k : Nat) (t : Token) : Token := { t with start := t.start + k }

/-- Where a text starts only moves its tokens. -/
theorem scanFrom_add (n k : Nat) (cs : List Char) :
    scanFrom (n + k) cs = (scanFrom n cs).map (shift k) := by
  fun_induction scanFrom n cs with
  | case1 n cs h => rw [scanFrom_of_blank h, List.map_nil]
  | case2 n cs c t h start lexeme ih =>
    rw [scanFrom_of_cons h, List.map_cons, ← ih]
    simp only [shift, start, lexeme, Nat.add_right_comm _ k]

/-- A literal that is left open does not end where its text does, so its token is another one as
soon as text stands behind it. -/
theorem scanFrom_append_ne {n : Nat} {a r : List Char} (ws : List Token)
    (hopen : ∃ t ∈ scanFrom n a, t.isUnclosed = true) (hr : Delimited r) (hne : r ≠ []) :
    scanFrom n (a ++ r) ≠ scanFrom n a ++ ws := by
  fun_induction scanFrom n a with
  | case1 n a h => simp at hopen
  | case2 n a c t h start lexeme ih =>
    obtain ⟨hdrop, htake⟩ := span_append_of_cons (r := r) h
    rw [scanFrom_of_cons hdrop, htake, List.cons_append]
    intro heq
    obtain ⟨hhead, htail⟩ := List.cons.inj heq
    rw [Token.mk.injEq, String.ofList_inj] at hhead
    obtain ⟨hkind, hchars, -⟩ := hhead
    by_cases hquote : (c = '\x27' ∨ c = '\x22') ∧ lexeme.kind = .illegal
    · -- the open literal is the first token, and it would take the further text as well
      have hshort := (Lexeme.read_open hquote.1 hquote.2).2
      have hlong := (Lexeme.read_open hquote.1 (hkind.trans hquote.2)).2
      rw [hlong] at hchars
      simp only [lexeme, hshort, List.cons.injEq, true_and] at hchars
      exact hne (List.append_right_eq_self.mp hchars)
    · -- the first token stays, and the open literal is further on
      have hclosed : (Lexeme.read c t).kind = .illegal → c ≠ '\x27' ∧ c ≠ '\x22' := by
        intro hk
        rw [← not_or]
        exact fun hq => hquote ⟨hq, hk⟩
      rw [Lexeme.read_append_right hr hclosed] at htail
      refine ih ?_ htail
      obtain ⟨u, hu, hunclosed⟩ := hopen
      rcases List.mem_cons.mp hu with rfl | hu
      · obtain ⟨cs, hcs⟩ := Lexeme.read_head c t
        simp only [isUnclosed, lexeme, hcs, String.toList_ofList, List.head?_cons,
          Bool.and_eq_true, Bool.or_eq_true, beq_iff_eq, Option.some.injEq] at hunclosed
        exact absurd ⟨hunclosed.2, hunclosed.1⟩ hquote
      · exact ⟨u, hu, hunclosed⟩

/-- The tokens of two texts with a blank between them are the tokens of the one and, moved behind
it, those of the other, exactly if the first leaves no literal open. -/
theorem scan_space_append_iff (a b : String) :
    scan (a ++ " " ++ b) = scan a ++ (scan b).map (shift (a.utf8ByteSize + 1)) ↔
      ∀ t ∈ scan a, t.isUnclosed = false := by
  have hblank : isDelimiter ' ' = true := by decide
  have htext : (a ++ " " ++ b).toList = a.toList ++ ' ' :: b.toList := by simp
  -- behind the blank the tokens are those of the second text, moved
  have hbehind : scanFrom (0 + byteSize a.toList) (' ' :: b.toList) =
      (scan b).map (shift (a.utf8ByteSize + 1)) := by
    have hskip : scanFrom (0 + byteSize a.toList) ([' '] ++ b.toList) =
        scanFrom (0 + byteSize a.toList + byteSize [' ']) b.toList :=
      scanFrom_blanks (List.forall_mem_singleton.mpr (by decide))
    rw [List.singleton_append] at hskip
    rw [hskip, scan, ← scanFrom_add]
    congr 1
    have hsize : byteSize a.toList = a.utf8ByteSize := by rw [byteSize, String.ofList_toList]
    have hone : byteSize [' '] = 1 := by decide
    omega
  constructor
  · -- a literal that is open goes on into the second text, so the tokens differ
    intro heq t ht
    cases hopen : t.isUnclosed with
    | false => rfl
    | true =>
      have hne := scanFrom_append_ne ((scan b).map (shift (a.utf8ByteSize + 1))) ⟨t, ht, hopen⟩
        (delimited_cons hblank) (List.cons_ne_nil ' ' b.toList)
      rw [← htext] at hne
      exact absurd heq hne
  · intro hclosed
    rw [scan, htext, scanFrom_append hclosed (delimited_cons hblank), hbehind]
    rfl

end Token

end DashQuery
