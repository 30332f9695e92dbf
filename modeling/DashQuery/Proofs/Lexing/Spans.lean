import DashQuery.Proofs.Lexing.Append
import Mathlib.Data.String.Basic

/-!
# Where the tokens of a text stand

A token names the bytes that it was read from.  Nothing of a text is lost when it is
taken apart: the tokens stand in it one behind the other, each on whole characters
and with at least one of its own, and in front of the first, between two of them and
behind the last there are only blanks (`Covers`).  What a token says is what stands
at its place, for a literal without the delimiters, which inside it stand in pairs
only; and a token of several characters without a reading is a literal that is never
closed and goes on to the end (`Token.IsFaithful`).

* `scanFrom_eq_append`   where the tokens are split, the text is, and what is left of the
  tokens is read from what is left of the text
* `scan_lossless`        this holds of the tokens of every text, of which there are no more
  than the text has characters
-/

namespace DashQuery

/-! ## Literals -/

/-- A text in which the delimiter stands only in pairs, side by side. -/
inductive Paired (delimiter : Char) : List Char → Prop where
  | nil : Paired delimiter []
  | other {c : Char} {cs : List Char} (hc : c ≠ delimiter) (h : Paired delimiter cs) :
    Paired delimiter (c :: cs)
  | pair {cs : List Char} (h : Paired delimiter cs) :
    Paired delimiter (delimiter :: delimiter :: cs)

namespace Lexeme

/-- A literal that is not closed holds its delimiter in pairs only. -/
theorem paired_of_closing?_eq_none {delimiter : Char} {t : List Char}
    (h : closing? delimiter t = none) : Paired delimiter t := by
  fun_induction closing? delimiter t with
  | case1 => exact .nil
  | case2 => cases h
  | case3 c hc => exact .other hc .nil
  | case4 t ih => exact .pair (ih (Option.map_eq_none_iff.mp h))
  | case5 => cases h
  | case6 c d t hc ih => exact .other hc (ih (Option.map_eq_none_iff.mp h))

/-- A literal that is closed holds its delimiter in pairs only, up to the one that closes it. -/
theorem paired_of_closing?_eq_some {delimiter : Char} {t body rest : List Char}
    (h : closing? delimiter t = some (body, rest)) :
    ∃ inside, body = inside ++ [delimiter] ∧ Paired delimiter inside := by
  fun_induction closing? delimiter t generalizing body rest with
  | case1 => cases h
  | case2 =>
    obtain ⟨rfl, rfl⟩ := Prod.mk.inj (Option.some.inj h)
    exact ⟨[], rfl, .nil⟩
  | case3 => cases h
  | case4 t ih =>
    -- a doubled delimiter goes on, as a pair
    obtain ⟨⟨b, r⟩, hs, heq⟩ := Option.map_eq_some_iff.mp h
    obtain ⟨rfl, rfl⟩ := Prod.mk.inj heq
    obtain ⟨inside, hb, hinside⟩ := ih hs
    exact ⟨_ :: _ :: inside, by rw [hb]; rfl, .pair hinside⟩
  | case5 =>
    obtain ⟨rfl, rfl⟩ := Prod.mk.inj (Option.some.inj h)
    exact ⟨[], rfl, .nil⟩
  | case6 c d t hc ih =>
    -- any other character goes on by itself
    obtain ⟨⟨b, r⟩, hs, heq⟩ := Option.map_eq_some_iff.mp h
    obtain ⟨rfl, rfl⟩ := Prod.mk.inj heq
    obtain ⟨inside, hb, hinside⟩ := ih hs
    exact ⟨c :: inside, by rw [hb]; rfl, .other hc hinside⟩

/-- What starts with a digit is a number. -/
theorem kind_number (c : Char) (t : List Char) : (number c t).kind = .number := by
  unfold number
  split <;> rfl

/-- What may be an operator is one, or a single character without a reading. -/
theorem comparison_cases (c : Char) (t : List Char) :
    (comparison c t).kind = .operator ∨
      (comparison c t).kind = .illegal ∧ (comparison c t).chars = [c] := by
  -- a single character is an operator or nothing that is known
  have hlone : lone c = .operator ∨ lone c = .illegal := by
    unfold lone
    split
    · exact .inr rfl
    · exact .inl rfl
  unfold comparison
  split
  · exact hlone.imp_right fun h => ⟨h, rfl⟩
  · split
    · exact .inl rfl
    · exact hlone.imp_right fun h => ⟨h, rfl⟩

/-- A literal that is read to its end: its delimiter, what it holds, its delimiter. -/
theorem read_literal {c d : Char} {t : List Char} (h : (read c t).kind.delimiter? = some d) :
    ∃ inside, (read c t).chars = d :: (inside ++ [d]) ∧ Paired d inside := by
  unfold read at h ⊢
  -- no other way to open gives a literal
  cases ho : opening c t with
  | alone kind =>
    simp only [ho, single, opening_eq_alone ho] at h
    cases h
  | comparison =>
    simp only [ho] at h
    rcases comparison_cases c t with hk | ⟨hk, -⟩
    all_goals
      rw [hk] at h
      cases h
  | literal kind =>
    have hdelimiter := opening_eq_literal ho
    simp only [ho, literal] at h ⊢
    cases hc : closing? c t with
    | none =>
      simp only [hc] at h
      cases h
    | some split =>
      simp only [hc] at h ⊢
      rw [hdelimiter, Option.some.injEq] at h
      -- it is closed, for it was read to its end
      obtain ⟨inside, hbody, hinside⟩ := paired_of_closing?_eq_some hc
      rw [h] at hbody hinside
      exact ⟨inside, by rw [hbody, h], hinside⟩
  | number =>
    simp only [ho, kind_number] at h
    cases h
  | word =>
    simp only [ho, word] at h
    cases h

/-- Several characters without a reading are a literal that is never closed. -/
theorem read_illegal {c : Char} {t : List Char} (h : (read c t).kind = .illegal)
    (hlong : 1 < (read c t).chars.length) :
    (c = '\x27' ∨ c = '\x22') ∧ Paired c t ∧ read c t = ⟨.illegal, c :: t, []⟩ := by
  cases ho : opening c t with
  | alone kind =>
    -- a single character is too short
    simp only [read, ho, single, List.length_singleton, Nat.lt_irrefl] at hlong
  | comparison =>
    simp only [read, ho] at h hlong
    rcases comparison_cases c t with hk | ⟨-, hone⟩
    · rw [hk] at h
      cases h
    · rw [hone, List.length_singleton] at hlong
      exact absurd hlong (Nat.lt_irrefl 1)
  | literal kind =>
    -- it is never closed, so it takes the rest of the text
    have hquote := TokenKind.quote_of_delimiter? (opening_eq_literal ho)
    obtain ⟨hopen, hread⟩ := read_open hquote h
    exact ⟨hquote, paired_of_closing?_eq_none hopen, hread⟩
  | number =>
    simp only [read, ho, kind_number] at h
    cases h
  | word =>
    simp only [read, ho, word] at h
    cases h

end Lexeme

/-! ## Places in a text -/

/-- The text between two bytes. -/
def textBetween (text : String) (lo hi : Nat) : String := String.Pos.Raw.extract text ⟨lo⟩ ⟨hi⟩

/-- Whether no character of the text goes over the byte. -/
def OnBoundary (text : String) (n : Nat) : Prop := String.Pos.Raw.IsValid text ⟨n⟩

open Token (byteSize byteSize_append)

/-- A part of a text is what stands between its first byte and the one behind it. -/
theorem textBetween_eq {text : String} {l m r : List Char} (h : text.toList = l ++ m ++ r) :
    textBetween text (byteSize l) (byteSize l + byteSize m) = String.ofList m := by
  rw [← String.ofList_toList (s := text), h, textBetween]
  simp only [byteSize, String.utf8ByteSize_ofList]
  exact String.extract_of_valid l m r

/-- A text can be cut behind each of its characters. -/
theorem onBoundary_byteSize {text : String} {l r : List Char} (h : text.toList = l ++ r) :
    OnBoundary text (byteSize l) := by
  refine String.Pos.Raw.isValid_iff_exists_append.mpr ⟨String.ofList l, String.ofList r, ?_, rfl⟩
  rw [← String.ofList_append, ← h, String.ofList_toList]

/-- The size of a text is that of its characters. -/
theorem byteSize_toList (text : String) : byteSize text.toList = text.utf8ByteSize := by
  rw [byteSize, String.ofList_toList]

namespace Token

/-! ## Splitting the tokens splits the text -/

/-- The byte behind the last token; `n` if there is none. -/
def reached (n : Nat) (before : List Token) : Nat := (before.getLast?.map stop).getD n

/-- The first byte of the first token; the end of the text if there is none. -/
def ahead (text : String) (after : List Token) : Nat :=
  (after.head?.map start).getD text.utf8ByteSize

/-- What is reached behind a first token is reached from its end. -/
theorem reached_cons (n : Nat) (t : Token) (before : List Token) :
    reached n (t :: before) = reached t.stop before := by
  rw [reached, reached, List.getLast?_cons, Option.map_some, Option.getD_some]
  cases before.getLast? <;> rfl

/-- The tokens behind a token are those of the text behind it. -/
theorem scanFrom_eq_append {n : Nat} {cs : List Char} {before after : List Token}
    (h : scanFrom n cs = before ++ after) :
    ∃ front back, cs = front ++ back ∧ after = scanFrom (n + byteSize front) back ∧
      reached n before = n + byteSize front := by
  induction before generalizing n cs with
  | nil => exact ⟨[], cs, rfl, h.symm, rfl⟩
  | cons t before ih =>
    -- a first token stands only where the text is more than blanks
    cases hcs : cs.dropWhile isBlank with
    | nil =>
      rw [scanFrom_of_blank hcs] at h
      cases h
    | cons c r =>
      rw [scanFrom_of_cons hcs, List.cons_append] at h
      obtain ⟨ht, hrest⟩ := List.cons.inj h
      obtain ⟨front, back, hback, hafter, hreached⟩ := ih hrest
      -- in front of the token stand blanks, and behind it what its lexeme leaves
      have htext : cs = cs.takeWhile isBlank ++ ((Lexeme.read c r).chars ++ front) ++ back := by
        rw [List.append_assoc, List.append_assoc, ← hback, Lexeme.read_append, ← hcs,
          List.takeWhile_append_dropWhile]
      have hsize : n + byteSize (cs.takeWhile isBlank ++ ((Lexeme.read c r).chars ++ front)) =
          n + byteSize (cs.takeWhile isBlank) + byteSize (Lexeme.read c r).chars +
            byteSize front := by
        rw [byteSize_append, byteSize_append]
        omega
      refine ⟨_, back, htext, ?_, ?_⟩
      · rw [hsize]
        exact hafter
      · rw [hsize, ← hreached, reached_cons, ← ht]
        rfl

/-- A token is the lexeme at its place. -/
theorem exists_lexeme {text : String} {t : Token} (h : t ∈ scan text) :
    ∃ front c r, text.toList = front ++ c :: r ∧ isBlank c = false ∧
      t.kind = (Lexeme.read c r).kind ∧ t.text.toList = (Lexeme.read c r).chars ∧
      t.start = byteSize front := by
  obtain ⟨before, after, hsplit⟩ := List.append_of_mem h
  obtain ⟨front, back, htext, hafter, -⟩ := scanFrom_eq_append hsplit
  cases hback : back.dropWhile isBlank with
  | nil =>
    rw [scanFrom_of_blank hback] at hafter
    cases hafter
  | cons c r =>
    -- the token starts behind the blanks
    have hblank : isBlank c = false := by
      have hhead := List.head?_dropWhile_not (p := isBlank) (l := back)
      rw [hback] at hhead
      simpa using hhead
    rw [scanFrom_of_cons hback] at hafter
    have ht := (List.cons.inj hafter).1
    refine ⟨front ++ back.takeWhile isBlank, c, r, ?_, hblank, ?_, ?_, ?_⟩
    · -- the text up to there is what stood before and the blanks
      rw [htext, List.append_assoc, ← hback, List.takeWhile_append_dropWhile]
    · rw [ht]
    · rw [ht, String.toList_ofList]
    · rw [ht, byteSize_append, Nat.zero_add]

/-- Later tokens stand behind the byte where reading began. -/
theorem le_start {n : Nat} {cs : List Char} {t : Token} (h : t ∈ scanFrom n cs) : n ≤ t.start := by
  fun_induction scanFrom n cs with
  | case1 => cases h
  | case2 n cs c r _ start lexeme ih =>
    rcases List.mem_cons.mp h with rfl | h
    · exact Nat.le_add_right n _
    · have hle := ih h
      omega

/-- No token starts before an earlier one ends. -/
theorem pairwise_scanFrom (n : Nat) (cs : List Char) :
    (scanFrom n cs).Pairwise fun t u => t.stop ≤ u.start := by
  fun_induction scanFrom n cs with
  | case1 => exact .nil
  | case2 n cs c r _ start lexeme ih => exact .cons (fun u hu => le_start hu) ih

/-- Each token takes a character at least. -/
theorem length_scanFrom_le (n : Nat) (cs : List Char) : (scanFrom n cs).length ≤ cs.length := by
  fun_induction scanFrom n cs with
  | case1 => exact Nat.zero_le _
  | case2 n cs c r h start lexeme ih =>
    have hle := (List.dropWhile_sublist isBlank (l := cs)).length_le
    have hrest : lexeme.rest.length ≤ r.length := Lexeme.length_rest_le c r
    rw [h, List.length_cons] at hle
    rw [List.length_cons]
    omega

/-! ## What the tokens of a text are -/

/-- The tokens stand in the text one behind the other, on whole characters, each with a character
that is no blank at its front, and all that stands before, between and behind them are blanks. -/
structure Covers (text : String) (ts : List Token) : Prop where
  onBoundary : ∀ t ∈ ts, OnBoundary text t.start ∧ OnBoundary text t.stop
  nonempty : ∀ t ∈ ts, t.start < t.stop
  ordered : ts.Pairwise fun t u => t.stop ≤ u.start
  begins : ∀ t ∈ ts, ∃ c cs, (textBetween text t.start t.stop).toList = c :: cs ∧
    isBlank c = false
  gaps : ∀ before after, ts = before ++ after → reached 0 before ≤ ahead text after ∧
    ∀ c ∈ (textBetween text (reached 0 before) (ahead text after)).toList, isBlank c = true

/-- The token says what stands at its place in the text. -/
structure IsFaithful (text : String) (t : Token) : Prop where
  /-- A word, a number or an operator says all of it. -/
  plain : t.kind = .identifier ∨ t.kind = .number ∨ t.kind = .operator →
    t.content = textBetween text t.start t.stop
  /-- A literal says what is between its delimiters. -/
  literal : ∀ d, t.kind.delimiter? = some d →
    (textBetween text t.start t.stop).toList = d :: (t.content.toList ++ [d]) ∧
      Paired d t.content.toList
  /-- Several characters have no reading only as a literal that is open to the end. -/
  illegal : t.kind = .illegal → 1 < (textBetween text t.start t.stop).length →
    ∃ d inside, (d = '\x27' ∨ d = '\x22') ∧
      (textBetween text t.start t.stop).toList = d :: inside ∧ Paired d inside ∧
      t.stop = text.utf8ByteSize

/-- A token ends where its text does. -/
theorem stop_eq (t : Token) : t.stop = t.start + byteSize t.text.toList := by
  rw [stop, byteSize_toList]

/-- The text of a token is what stands at its place. -/
theorem textBetween_of_mem {text : String} {t : Token} (h : t ∈ scan text) :
    textBetween text t.start t.stop = t.text := by
  obtain ⟨front, c, r, htext, -, -, hchars, hstart⟩ := exists_lexeme h
  rw [← Lexeme.read_append c r, ← List.append_assoc, ← hchars] at htext
  rw [stop_eq, hstart, textBetween_eq htext, String.ofList_toList]

/-- A word, a number or an operator says its text. -/
theorem content_of_plain {t : Token}
    (h : t.kind = .identifier ∨ t.kind = .number ∨ t.kind = .operator) : t.content = t.text := by
  rcases h with h | h | h <;> simp only [content, h]

/-- A literal says what stands between its delimiters. -/
theorem content_of_literal {t : Token} {d : Char} {inside : List Char}
    (h : t.kind.delimiter? = some d) (htext : t.text.toList = d :: (inside ++ [d])) :
    t.content.toList = inside := by
  have hcontent : t.content = inner t.text := by
    cases hk : t.kind <;> simp only [hk, TokenKind.delimiter?, reduceCtorEq] at h <;>
      simp only [content, hk]
  rw [hcontent, inner, String.toList_ofList, htext, List.tail_cons, List.dropLast_concat]

/-- Every token is what its kind says. -/
theorem isFaithful_of_mem {text : String} {t : Token} (h : t ∈ scan text) : t.IsFaithful text := by
  obtain ⟨front, c, r, htext, -, hkind, hchars, hstart⟩ := exists_lexeme h
  constructor
  · intro hplain
    rw [textBetween_of_mem h, content_of_plain hplain]
  · intro d hd
    obtain ⟨inside, hinside, hpaired⟩ := Lexeme.read_literal (hkind ▸ hd)
    have hcontent := content_of_literal hd (hchars.trans hinside)
    rw [textBetween_of_mem h, hcontent]
    exact ⟨hchars.trans hinside, hpaired⟩
  · intro hillegal hlong
    rw [textBetween_of_mem h] at hlong ⊢
    rw [← String.length_toList, hchars] at hlong
    obtain ⟨hquote, hpaired, hread⟩ := Lexeme.read_illegal (hkind.symm.trans hillegal) hlong
    rw [hread] at hchars
    refine ⟨c, r, hquote, hchars, hpaired, ?_⟩
    -- what the literal takes is all that the text has left
    rw [stop_eq, hstart, hchars, ← byteSize_append, ← htext, byteSize_toList]

/-- Before, between and behind the tokens there are blanks only. -/
theorem blank_of_mem_gap {text : String} {before after : List Token}
    (h : scan text = before ++ after) :
    reached 0 before ≤ ahead text after ∧
      ∀ c ∈ (textBetween text (reached 0 before) (ahead text after)).toList,
        isBlank c = true := by
  obtain ⟨front, back, htext, hafter, hreached⟩ := scanFrom_eq_append h
  rw [Nat.zero_add] at hafter hreached
  -- the next token comes behind the blanks with which the rest of the text begins
  have hahead : ahead text after = byteSize front + byteSize (back.takeWhile isBlank) := by
    cases hback : back.dropWhile isBlank with
    | nil =>
      have hself := List.takeWhile_append_dropWhile (p := isBlank) (l := back)
      rw [hback, List.append_nil] at hself
      rw [hafter, scanFrom_of_blank hback, hself, ← byteSize_append, ← htext, byteSize_toList]
      rfl
    | cons c r =>
      rw [hafter, scanFrom_of_cons hback]
      rfl
  -- the text up to there, the blanks, and the rest
  have hgap : text.toList = front ++ back.takeWhile isBlank ++ back.dropWhile isBlank := by
    rw [List.append_assoc, List.takeWhile_append_dropWhile, htext]
  rw [hreached, hahead, textBetween_eq hgap, String.toList_ofList]
  exact ⟨Nat.le_add_right _ _, List.all_eq_true.mp List.all_takeWhile⟩

/-- The tokens of a text cover it but for blanks. -/
theorem covers_scan (text : String) : Covers text (scan text) where
  onBoundary := by
    intro t ht
    obtain ⟨front, c, r, htext, -, -, hchars, hstart⟩ := exists_lexeme ht
    rw [stop_eq, hstart, hchars, ← byteSize_append]
    -- in front of the lexeme, and behind it
    refine ⟨onBoundary_byteSize htext, onBoundary_byteSize (r := (Lexeme.read c r).rest) ?_⟩
    rw [List.append_assoc, Lexeme.read_append, htext]
  nonempty := by
    intro t ht
    obtain ⟨-, c, r, -, -, -, hchars, -⟩ := exists_lexeme ht
    obtain ⟨cs, hcs⟩ := Lexeme.read_head c r
    -- a token has at least the character it starts with
    have hpos : 0 < byteSize t.text.toList := by
      rw [hchars, hcs, byteSize, String.utf8ByteSize_ofList]
      have hsize := Char.utf8Size_pos c
      rw [String.utf8Len_cons]
      omega
    rw [stop_eq]
    omega
  ordered := pairwise_scanFrom 0 text.toList
  begins := by
    intro t ht
    obtain ⟨-, c, r, -, hblank, -, hchars, -⟩ := exists_lexeme ht
    obtain ⟨cs, hcs⟩ := Lexeme.read_head c r
    rw [textBetween_of_mem ht, hchars]
    exact ⟨c, cs, hcs, hblank⟩
  gaps := fun _ _ h => blank_of_mem_gap h

/-- Nothing of a text is lost when it is taken apart. -/
theorem scan_lossless (text : String) :
    Covers text (scan text) ∧ (∀ t ∈ scan text, t.IsFaithful text) ∧
      (scan text).length ≤ text.length :=
  ⟨covers_scan text, fun _ ht => isFaithful_of_mem ht, length_scanFrom_le 0 text.toList⟩

end Token

end DashQuery
