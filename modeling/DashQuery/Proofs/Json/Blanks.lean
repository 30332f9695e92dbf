import DashQuery.Proofs.Json.Equations
import DashQuery.Proofs.Lexing.Append
import DashQuery.Proofs.Text.Trim

/-!
# Blanks around a document

A document is read the same without the blanks around it.  Behind it, only spaces may
stand, and no reader reads on into blanks: what it finds in a text that blanks follow it
finds in the text alone (`TrimsAt`).  That goes from the readers of characters up to the
reader of values, as it goes through every way in which one reader is made of others.  In
front of a document, a blank that is no space is the first character of no value.

## Key results

- `Reader.TrimsAt.bind`, `Reader.TrimsAt.next`: readers made of readers
- `Reader.trimsAt_value`: a value's reader does not read on into blanks
- `Reader.bare_value_of_blanks_append`: blanks in front of a value do not matter for it
- `read?_trimLine`: a document is read the same without the blanks around it
-/

namespace DashQuery.Json

namespace Reader

variable {α β : Type}

/-- What the reader finds in `x` before blanks it finds in `x` alone, and it leaves the blanks. -/
def TrimsAt (f : List Char → Option (α × List Char)) (x : List Char) : Prop :=
  ∀ ⦃w⦄, Blanks w → ∀ ⦃a r⦄, f (x ++ w) = some (a, r) → ∃ r', r = r' ++ w ∧ f x = some (a, r')

/-! ## Readers made of readers -/

namespace TrimsAt

variable {f : List Char → Option (α × List Char)} {x : List Char}

/-- A reader that finds what it finds anywhere leaves everything. -/
theorem pure (a : α) (x : List Char) : TrimsAt (fun s => some (a, s)) x := by
  intro w _ b r h
  obtain ⟨rfl, rfl⟩ := Prod.mk.inj (Option.some.inj h)
  exact ⟨x, rfl, rfl⟩

/-- A reader that finds nothing finds nothing before blanks either. -/
theorem none (x : List Char) : TrimsAt (fun _ => (Option.none : Option (α × List Char))) x := by
  intro w _ b r h
  cases h

/-- A reader that goes on where another one stopped. -/
theorem bind {g : α → List Char → Option (β × List Char)} (hf : TrimsAt f x)
    (hg : ∀ a r, f x = some (a, r) → TrimsAt (g a) r) :
    TrimsAt (fun s => (f s).bind fun q => g q.1 q.2) x := by
  intro w hw b r h
  obtain ⟨⟨a, mid⟩, ha, hrest⟩ := Option.bind_eq_some_iff.mp h
  obtain ⟨mid', rfl, ha'⟩ := hf hw ha
  obtain ⟨r', hr, hb⟩ := hg a mid' ha' hw hrest
  refine ⟨r', hr, ?_⟩
  -- the second reader goes on in the text alone, where the first one stops too
  show (f x).bind _ = _
  rw [ha']
  exact hb

/-- What is found may be changed. -/
theorem map (hf : TrimsAt f x) (g : α → β) :
    TrimsAt (fun s => (f s).map fun q => (g q.1, q.2)) x := by
  intro w hw b r h
  obtain ⟨⟨a, mid⟩, ha, hrest⟩ := Option.map_eq_some_iff.mp h
  obtain ⟨rfl, rfl⟩ := Prod.mk.inj hrest
  obtain ⟨r', hr, ha'⟩ := hf hw ha
  exact ⟨r', hr, by simp only [ha', Option.map_some]⟩

/-- It is enough to know the reader on texts that blanks follow; no blanks at all are such. -/
theorem congr {g : List Char → Option (α × List Char)} (hg : TrimsAt g x)
    (h : ∀ w, Blanks w → f (x ++ w) = g (x ++ w)) : TrimsAt f x := by
  intro w hw a r hf
  rw [h w hw] at hf
  obtain ⟨r', hr, ha⟩ := hg hw hf
  -- the text alone is the case of no blanks
  have hself := h [] (by simp [Blanks])
  rw [List.append_nil] at hself
  exact ⟨r', hr, hself.trans ha⟩

/-- A first character that is put back for the reader is none of the blanks. -/
theorem uncons {c : Char} {t : List Char} (hf : TrimsAt f (c :: t)) :
    TrimsAt (fun s => f (c :: s)) t :=
  fun _ hw _ _ h => hf hw h

/-- A reader that has looked at the first character. -/
theorem cons {c : Char} {t : List Char} {g : List Char → Option (α × List Char)}
    (h : ∀ s, f (c :: s) = g s) (hg : TrimsAt g t) : TrimsAt f (c :: t) := by
  intro w hw a r hf
  rw [List.cons_append, h] at hf
  obtain ⟨r', hr, ha⟩ := hg hw hf
  exact ⟨r', hr, (h t).trans ha⟩

/-- A reader that looks at nothing of the text. -/
theorem ofOption (o : Option α) (x : List Char) :
    TrimsAt (fun s => o.map fun a => (a, s)) x := by
  cases o with
  | none => exact TrimsAt.none x
  | some a => exact TrimsAt.pure a x

end TrimsAt

/-! ## Blanks and spaces -/

/-- The four spaces of JSON are blanks. -/
theorem isBlank_of_isSpace {c : Char} (h : isSpace c = true) : isBlank c = true := by
  simp only [isSpace, Bool.or_eq_true, beq_iff_eq] at h
  rcases h with ((rfl | rfl) | rfl) | rfl <;> decide

/-- No blank is a digit. -/
theorem isDigit_of_isBlank {c : Char} (h : isBlank c = true) : c.isDigit = false :=
  isDigit_of_isDelimiter (by simp [isDelimiter, h])

/-! ## Numbers and words -/

/-- Digits end where blanks start. -/
theorem digits_append {w : List Char} (hw : Blanks w) (x : List Char) :
    (digits (x ++ w)).1 = (digits x).1 ∧ (digits (x ++ w)).2.1 = (digits x).2.1 ++ w := by
  have hhead : ∀ c ∈ w.head?, c.isDigit = false := fun c hc =>
    isDigit_of_isBlank (hw c (List.mem_of_mem_head? hc))
  simp only [digits, takeWhile_append_of_head hhead, dropWhile_append_of_head hhead, and_self]

/-- The reader of digits does not read on into blanks. -/
theorem trimsAt_digits (x : List Char) :
    TrimsAt (fun s => some ((digits s).1, (digits s).2.1)) x := by
  intro w hw ds r h
  obtain ⟨hdigits, hrest⟩ := digits_append hw x
  simp only [hdigits, hrest] at h
  obtain ⟨rfl, rfl⟩ := Prod.mk.inj (Option.some.inj h)
  exact ⟨_, rfl, rfl⟩

/-- Nor does it where at least one digit is asked for. -/
theorem trimsAt_someDigits (x : List Char) : TrimsAt someDigits? x := by
  intro w hw ds r h
  obtain ⟨hdigits, hrest⟩ := digits_append hw x
  unfold someDigits? at h ⊢
  rw [hdigits, hrest] at h
  split at h
  · cases h
  · next hne =>
    obtain ⟨rfl, rfl⟩ := Prod.mk.inj (Option.some.inj h)
    exact ⟨_, rfl, if_neg hne⟩

/-- The part of a number behind its point. -/
theorem trimsAt_fraction (x : List Char) : TrimsAt (fun s => bare (fraction? s)) x := by
  by_cases hx : x.head? = some '.'
  · obtain ⟨t, rfl⟩ := List.head?_eq_some_iff.mp hx
    exact .cons bare_fraction_point ((trimsAt_someDigits t).map some)
  -- no point, and blanks bring none
  · exact (TrimsAt.pure none x).congr fun w hw =>
      bare_fraction_other (hw.head_append (by decide) hx)

/-- The sign and the digits of an exponent. -/
theorem trimsAt_signedDigits (x : List Char) : TrimsAt (fun s => bare (signedDigits? s)) x := by
  -- a minus, a plus, or no sign
  by_cases hm : x.head? = some '-'
  · obtain ⟨t, rfl⟩ := List.head?_eq_some_iff.mp hm
    exact .cons bare_signed_minus
      ((trimsAt_someDigits t).map fun ds => -(Numeral.ofDigits ds : Int))
  by_cases hp : x.head? = some '+'
  · obtain ⟨t, rfl⟩ := List.head?_eq_some_iff.mp hp
    exact .cons bare_signed_plus
      ((trimsAt_someDigits t).map fun ds => (Numeral.ofDigits ds : Int))
  · exact ((trimsAt_someDigits x).map fun ds => (Numeral.ofDigits ds : Int)).congr fun w hw =>
      bare_signed_other (hw.head_append (by decide) hm) (hw.head_append (by decide) hp)

/-- The exponent of a number, behind either letter. -/
theorem trimsAt_exponent (x : List Char) : TrimsAt (fun s => bare (exponent? s)) x := by
  by_cases he : x.head? = some 'e'
  · obtain ⟨t, rfl⟩ := List.head?_eq_some_iff.mp he
    exact .cons (bare_exponent_letter (.inl rfl)) ((trimsAt_signedDigits t).map some)
  by_cases hE : x.head? = some 'E'
  · obtain ⟨t, rfl⟩ := List.head?_eq_some_iff.mp hE
    exact .cons (bare_exponent_letter (.inr rfl)) ((trimsAt_signedDigits t).map some)
  · exact (TrimsAt.pure none x).congr fun w hw =>
      bare_exponent_other (hw.head_append (by decide) he) (hw.head_append (by decide) hE)

/-- The digits in front of the point. -/
theorem trimsAt_whole (x : List Char) : TrimsAt (fun s => bare (whole? s)) x := by
  cases x with
  | nil =>
    -- nothing stands before the blanks, and they start no number
    refine (TrimsAt.none []).congr fun w hw => ?_
    cases w with
    | nil => rfl
    | cons c w =>
      have hc := hw c List.mem_cons_self
      rw [List.nil_append, bare_whole_other w (ne_of_isBlank hc (by decide)),
        isDigit_of_isBlank hc]
      rfl
  | cons c t =>
    by_cases hc : c = '0'
    -- a zero stands by itself
    · subst hc
      refine .cons bare_whole_zero ?_
      intro w hw ds r h
      simp only [(digits_append hw t).1] at h
      split at h
      · next hnil =>
        obtain ⟨rfl, rfl⟩ := Prod.mk.inj (Option.some.inj h)
        exact ⟨t, rfl, if_pos hnil⟩
      · cases h
    · refine .cons (fun s => bare_whole_other s hc) ?_
      -- any other first digit goes on
      by_cases hd : c.isDigit = true
      · simp only [hd, if_true]
        exact (trimsAt_digits t).map fun ds => (c.toNat - 48) :: ds
      · simp only [hd]
        exact .none t

/-- A number without its sign is read part by part. -/
theorem trimsAt_unsigned (ignored negative : Bool) (x : List Char) :
    TrimsAt (fun s => bare (unsigned? ignored negative s)) x := by
  have hparts := (trimsAt_whole x).bind fun whole r₁ _ =>
    (trimsAt_fraction r₁).bind fun fraction r₂ _ =>
      (trimsAt_exponent r₂).bind fun exponent r₃ _ =>
        TrimsAt.ofOption (valueOf? ignored negative whole fraction exponent) r₃
  exact hparts.congr fun w _ => bare_unsigned ignored negative (x ++ w)

/-- A number, with its sign. -/
theorem trimsAt_number (ignored : Bool) (x : List Char) :
    TrimsAt (fun s => bare (number? ignored s)) x := by
  by_cases hx : x.head? = some '-'
  · obtain ⟨t, rfl⟩ := List.head?_eq_some_iff.mp hx
    exact .cons (bare_number_minus ignored) (trimsAt_unsigned ignored true t)
  · exact (trimsAt_unsigned ignored false x).congr fun w hw =>
      bare_number_other ignored (hw.head_append (by decide) hx)

/-- The words that are values hold no blanks, so they are read in front of them. -/
theorem trimsAt_word (x : List Char) : TrimsAt (fun s => bare (word? s)) x := by
  intro w hw j r h
  change bare (word? (x ++ w)) = some (j, r) at h
  have hletters : ∀ word : List Char, word.all Char.isAlphanum = true →
      ∀ c ∈ word, isBlank c = false := fun word hword c hc =>
    isBlank_eq_false_of_isAlphanum (List.all_eq_true.mp hword c hc)
  -- which word it is, if any; each is cut off the text before the blanks
  generalize hs : x ++ w = s at h
  unfold word? at h
  split at h
  · next t =>
    obtain ⟨rest, rfl, rfl⟩ := hw.front ['n', 'u', 'l', 'l'] hs (hletters _ (by decide))
    obtain ⟨rfl, rfl⟩ := Prod.mk.inj (Option.some.inj h)
    exact ⟨rest, rfl, rfl⟩
  · next t =>
    obtain ⟨rest, rfl, rfl⟩ := hw.front ['t', 'r', 'u', 'e'] hs (hletters _ (by decide))
    obtain ⟨rfl, rfl⟩ := Prod.mk.inj (Option.some.inj h)
    exact ⟨rest, rfl, rfl⟩
  · next t =>
    obtain ⟨rest, rfl, rfl⟩ := hw.front ['f', 'a', 'l', 's', 'e'] hs (hletters _ (by decide))
    obtain ⟨rfl, rfl⟩ := Prod.mk.inj (Option.some.inj h)
    exact ⟨rest, rfl, rfl⟩
  · cases h

/-! ## Strings -/

/-- A blank is no hexadecimal digit. -/
theorem hexDigit?_of_isBlank {c : Char} (h : isBlank c = true) : hexDigit? c = none := by
  have hno : ¬(33 ≤ c.toNat ∧ c.toNat < 128) := by
    rintro ⟨hmin, hmax⟩
    rw [isBlank_eq_false hmin hmax] at h
    cases h
  -- each of the three runs of hexadecimal digits is between the blank and the end of ASCII
  have hrun : ∀ lo hi : Char, 33 ≤ lo.toNat → hi.toNat < 128 → ¬(lo ≤ c ∧ c ≤ hi) :=
    fun lo hi hlo hhi hc => hno ⟨Nat.le_trans hlo hc.1, Nat.lt_of_le_of_lt hc.2 hhi⟩
  simp only [hexDigit?, hrun '0' '9' (by decide) (by decide), hrun 'a' 'f' (by decide) (by decide),
    hrun 'A' 'F' (by decide) (by decide), if_false]

/-- The digits of a code unit are no blanks. -/
theorem hex4?_eq_some {a b c d : Char} {n : Nat} (h : hex4? a b c d = some n) :
    ∀ x ∈ [a, b, c, d], isBlank x = false := by
  intro x hx
  rw [← Bool.not_eq_true]
  intro hblank
  have hnone := hexDigit?_of_isBlank hblank
  simp only [List.mem_cons, List.not_mem_nil, or_false] at hx
  rcases hx with rfl | rfl | rfl | rfl <;> simp [hex4?, hnone] at h

/-- A code unit is written without blanks. -/
theorem isBlank_unit {a b c d : Char} {n : Nat} (h : hex4? a b c d = some n) :
    ∀ x ∈ ['\\', 'u', a, b, c, d], isBlank x = false := by
  intro x hx
  rw [List.mem_cons, List.mem_cons] at hx
  rcases hx with rfl | rfl | hx
  · decide
  · decide
  · exact hex4?_eq_some h x hx

/-- A numeric escape, which may need a second code unit behind it. -/
theorem trimsAt_unicodeEscape (ignored : Bool) (hi : Nat) (x : List Char) :
    TrimsAt (fun s => bare (unicodeEscape? ignored hi s)) x := by
  by_cases hhigh : ignored = false ∧ 0xD800 ≤ hi ∧ hi < 0xDC00
  -- the first half of a pair: the second one stands before the blanks
  · obtain ⟨rfl, hhigh⟩ := hhigh
    intro w hw ch r h
    obtain ⟨a, b, c, d, lo, hs, hhex, hlow, hch⟩ := (bare_lowHalf_iff hhigh).mp h
    obtain ⟨rest, hx, hr⟩ := hw.front _ hs (isBlank_unit hhex)
    exact ⟨rest, hr, (bare_lowHalf_iff hhigh).mpr ⟨a, b, c, d, lo, hx, hhex, hlow, hch⟩⟩
  · -- otherwise the code unit is a character by itself, or none
    by_cases hself : ignored = true ∨ ¬(0xDC00 ≤ hi ∧ hi < 0xE000)
    · refine (TrimsAt.pure (Char.ofNat hi) x).congr fun w _ => ?_
      exact bare_unicodeEscape_self hhigh hself (x ++ w)
    · refine (TrimsAt.none x).congr fun w _ => ?_
      exact bare_unicodeEscape_low hhigh hself (x ++ w)

/-- No blank stands for a character behind a backslash. -/
theorem isBlank_of_escape {e ch : Char} (h : escape? e = some ch) : isBlank e = false := by
  unfold escape? at h
  split at h
  all_goals first | decide | cases h

/-- One character of a string, however it is written. -/
theorem trimsAt_stringChar (ignored : Bool) (c : Char) (t : List Char) :
    TrimsAt (fun s => bare (stringChar? ignored s)) (c :: t) := by
  intro w hw ch r h
  -- it is read in the same way where no blanks follow
  cases spelled_of_stringChar h with
  | unit hs hhex hchar =>
    obtain ⟨rest, hx, rfl⟩ := hw.front _ hs (isBlank_unit hhex)
    obtain ⟨r', hr, hchar'⟩ := trimsAt_unicodeEscape ignored _ rest hw hchar
    exact ⟨r', hr, (Spelled.unit hx hhex hchar').stringChar⟩
  | @escape e hs hchar =>
    have hsolid : ∀ d ∈ ['\\', e], isBlank d = false := by
      simp only [List.mem_cons, List.not_mem_nil, or_false, forall_eq_or_imp, forall_eq]
      exact ⟨by decide, isBlank_of_escape hchar⟩
    obtain ⟨rest, hx, rfl⟩ := hw.front _ hs hsolid
    exact ⟨rest, rfl, (Spelled.escape hx hchar).stringChar⟩
  | plain hs hmin hne =>
    obtain ⟨rfl, rfl⟩ := List.cons.inj hs
    exact ⟨t, rfl, (Spelled.plain rfl hmin hne).stringChar⟩

/-- Blanks alone never close a string. -/
theorem bare_stringBody_blanks (ignored : Bool) {w : List Char} (hw : Blanks w) :
    bare (stringBody? ignored w) = none := by
  induction w with
  | nil => simp [stringBody?, bare]
  | cons c w ih =>
    have hc := hw c List.mem_cons_self
    have hrest : bare (stringBody? ignored w) = none :=
      ih fun d hd => hw d (List.mem_cons_of_mem _ hd)
    rw [bare_stringBody, if_neg (ne_of_isBlank hc (by decide))]
    rcases h : bare (stringChar? ignored (c :: w)) with _ | ⟨ch, r⟩
    · rfl
    -- a blank is a character by itself, as it does not start an escape
    have hslash : c ≠ '\\' := ne_of_isBlank hc (by decide)
    cases spelled_of_stringChar h with
    | unit hs => exact absurd (List.cons.inj hs).1 hslash
    | escape hs => exact absurd (List.cons.inj hs).1 hslash
    | plain hs =>
      rw [Option.bind_some, ← (List.cons.inj hs).2, hrest]
      rfl

/-- The rest of a string, up to its closing quote. -/
theorem trimsAt_stringBody (ignored : Bool) (x : List Char) :
    TrimsAt (fun s => bare (stringBody? ignored s)) x := by
  -- each character leaves less, so the induction is on the length
  induction hn : x.length using Nat.strongRecOn generalizing x with
  | ind n ih =>
    subst hn
    match x with
    -- a string that is not closed before the blanks is not closed by them
    | [] => exact (TrimsAt.none []).congr fun w hw => bare_stringBody_blanks ignored hw
    | c :: t =>
      by_cases hc : c = '\x22'
      · exact .cons (fun s => by rw [bare_stringBody, if_pos hc]) (.pure [] t)
      · have hbody := (trimsAt_stringChar ignored c t).bind fun ch r hr =>
          (ih r.length (length_of_bare hr) r rfl).map fun cs => ch :: cs
        exact hbody.congr fun w _ => by rw [List.cons_append, bare_stringBody, if_neg hc]

/-! ## Values that hold no other -/

/-- No value starts with a blank. -/
theorem bare_scalar_of_isBlank {c : Char} (hc : isBlank c = true) (ignored : Bool)
    (t : List Char) : bare (scalar? ignored (c :: t)) = none := by
  have hnumber : ¬(c = '-' ∨ c.isDigit = true) := by
    rw [isDigit_of_isBlank hc]
    simpa using ne_of_isBlank hc (by decide)
  rw [bare_scalar, if_neg (ne_of_isBlank hc (by decide)), if_neg hnumber]
  -- the words start with letters
  generalize hs : c :: t = s
  unfold word?
  split
  · exact absurd (List.cons.inj hs).1 (ne_of_isBlank hc (by decide))
  · exact absurd (List.cons.inj hs).1 (ne_of_isBlank hc (by decide))
  · exact absurd (List.cons.inj hs).1 (ne_of_isBlank hc (by decide))
  · rfl

/-- A string, a number or a word. -/
theorem trimsAt_scalar (ignored : Bool) (x : List Char) :
    TrimsAt (fun s => bare (scalar? ignored s)) x := by
  cases x with
  | nil =>
    -- blanks start no value
    refine (TrimsAt.none []).congr fun w hw => ?_
    cases w with
    | nil => rfl
    | cons c w => exact bare_scalar_of_isBlank (hw c List.mem_cons_self) ignored w
  | cons c t =>
    -- the first character says which of the three it is
    by_cases hc : c = '\x22'
    · exact .cons (fun s => by rw [bare_scalar, if_pos hc])
        ((trimsAt_stringBody ignored t).map fun cs => Json.str (String.ofList cs))
    by_cases hnumber : c = '-' ∨ c.isDigit = true
    · exact (trimsAt_number ignored (c :: t)).congr fun w _ => by
        rw [List.cons_append, bare_scalar, if_neg hc, if_pos hnumber]
    · exact (trimsAt_word (c :: t)).congr fun w _ => by
        rw [List.cons_append, bare_scalar, if_neg hc, if_neg hnumber]

/-! ## Readers that skip spaces first -/

/-- A reader that skips spaces finds nothing in blanks alone. -/
theorem next_blanks {g : Char → List Char → Option (α × List Char)} {w : List Char}
    (hg : ∀ c w, isBlank c = true → Blanks w → g c w = none) (hw : Blanks w) : next g w = none := by
  unfold next
  split
  · rfl
  · next c t h =>
    -- what is left behind the spaces is blanks still
    have hrest : Blanks (c :: t) := fun d hd =>
      hw d ((List.dropWhile_sublist isSpace).subset (h ▸ hd))
    exact hg c t (hrest c List.mem_cons_self) fun d hd => hrest d (List.mem_cons_of_mem _ hd)

/-- A reader that skips spaces first, if it finds nothing in blanks alone. -/
theorem TrimsAt.next {g : Char → List Char → Option (α × List Char)} {x : List Char}
    (hblank : ∀ c w, isBlank c = true → Blanks w → g c w = Option.none)
    (hg : ∀ c t, x.dropWhile isSpace = c :: t → TrimsAt (g c) t) : TrimsAt (Reader.next g) x := by
  intro w hw a r h
  rcases hx : x.dropWhile isSpace with _ | ⟨c, t⟩
  · -- only spaces stand before the blanks, so nothing is found
    have hdrop : (x ++ w).dropWhile isSpace = w.dropWhile isSpace := by
      rw [List.dropWhile_append, hx]
      rfl
    rw [← next_dropWhile, hdrop, next_dropWhile, next_blanks hblank hw] at h
    cases h
  · -- the first significant character stands before the blanks
    have hdrop : (x ++ w).dropWhile isSpace = c :: (t ++ w) := by
      rw [List.dropWhile_append, hx]
      rfl
    rw [Reader.next, hdrop] at h
    obtain ⟨r', hr, ha⟩ := hg c t hx hw h
    exact ⟨r', hr, by rw [Reader.next, hx]; exact ha⟩

/-- What stands behind an item of a list: a comma and more items, or the closing bracket. -/
theorem trimsAt_follow (close : Char) (hclose : isBlank close = false)
    {more : List Char → Option (List α × List Char)} {x : List Char}
    (hmore : ∀ t : List Char, t.length < x.length → TrimsAt more t) (a : α) :
    TrimsAt (follow close more a) x := by
  refine .next (fun c w hc _ => ?_) fun c t ht => ?_
  -- a blank is neither
  · rw [if_neg (ne_of_isBlank hc (by decide)), if_neg (ne_of_isBlank hc hclose)]
  · have hlt : t.length < x.length := lt_of_dropWhile ht
    by_cases hcomma : c = ','
    · simp only [hcomma, if_true]
      exact (hmore t hlt).map fun as => a :: as
    · by_cases hc : c = close
      · simp only [if_neg hcomma, if_pos hc]
        exact .pure [a] t
      · simp only [if_neg hcomma, if_neg hc]
        exact .none t

/-- What stands inside brackets: nothing, or items. -/
theorem trimsAt_inside {close : Char} (hclose : isBlank close = false)
    {more : List Char → Option (List α × List Char)} {x : List Char}
    (hblanks : ∀ w, Blanks w → more w = none)
    (hmore : ∀ s : List Char, s.length ≤ x.length → TrimsAt more s) :
    TrimsAt (inside close more) x := by
  refine .next (fun c w hc hw => ?_) fun c t ht => ?_
  · rw [if_neg (ne_of_isBlank hc hclose)]
    exact hblanks _ (hw.cons hc)
  · by_cases hc : c = close
    · simp only [if_pos hc]
      exact .pure [] t
    · simp only [if_neg hc]
      exact (hmore (c :: t) (lt_of_dropWhile ht)).uncons

/-! ## Keys -/

/-- Blanks hold no key. -/
theorem bare_key_blanks (ignored : Bool) {w : List Char} (hw : Blanks w) :
    bare (key? ignored w) = none := by
  rw [bare_key]
  exact next_blanks (fun c w hc _ => if_neg (ne_of_isBlank hc (by decide))) hw

/-- The colon behind a key. -/
theorem trimsAt_colon (key : String) (x : List Char) :
    TrimsAt (next fun d t => if d = ':' then some (key, t) else none) x := by
  refine .next (fun d w hd _ => if_neg (ne_of_isBlank hd (by decide))) fun d t _ => ?_
  by_cases hd : d = ':'
  · simp only [if_pos hd]
    exact .pure key t
  · simp only [if_neg hd]
    exact .none t

/-- The key of a member with the colon behind it. -/
theorem trimsAt_key (ignored : Bool) (x : List Char) :
    TrimsAt (fun s => bare (key? ignored s)) x := by
  refine TrimsAt.congr (.next ?_ ?_) fun w _ => bare_key ignored (x ++ w)
  · exact fun c w hc _ => if_neg (ne_of_isBlank hc (by decide))
  · intro c t _
    -- a key starts with a quote
    by_cases hc : c = '\x22'
    · simp only [if_pos hc]
      have hkey := (trimsAt_stringBody ignored t).bind fun key r _ =>
        trimsAt_colon (String.ofList key) r
      exact hkey
    · simp only [if_neg hc]
      exact .none t

/-! ## Values -/

/-- Blanks hold no value. -/
theorem bare_value_blanks (outline : Outline) (room : Nat) {w : List Char} (hw : Blanks w) :
    bare (value? outline room w) = none := by
  rw [bare_value]
  refine next_blanks (fun c w hc hw => ?_) hw
  rw [if_neg (ne_of_isBlank hc (by decide)), if_neg (ne_of_isBlank hc (by decide)),
    bare_scalar_of_isBlank hc]
  rfl

mutual

/-- A value. The readers of values, items and members call each other on shorter texts. -/
theorem trimsAt_value (outline : Outline) (room : Nat) (x : List Char) :
    TrimsAt (fun s => bare (value? outline room s)) x := by
  refine TrimsAt.congr (.next ?_ ?_) fun w _ => bare_value outline room (x ++ w)
  · intro c w hc hw
    rw [if_neg (ne_of_isBlank hc (by decide)), if_neg (ne_of_isBlank hc (by decide)),
      bare_scalar_of_isBlank hc]
    rfl
  · intro c t ht
    have hlt : t.length < x.length := lt_of_dropWhile ht
    -- a list, an object, or a value that holds no other
    by_cases hbracket : c = '['
    · simp only [if_pos hbracket]
      cases enter? outline room with
      | none => exact .none t
      | some inner => exact (trimsAt_items outline inner t).map fun js => keep outline (.arr js)
    by_cases hbrace : c = '\x7b'
    · simp only [if_neg hbracket, if_pos hbrace]
      cases enter? outline room with
      | none => exact .none t
      | some inner => exact (trimsAt_members outline inner t).map fun ms => keep outline (.obj ms)
    · simp only [if_neg hbracket, if_neg hbrace]
      exact (trimsAt_scalar outline.isIgnored (c :: t)).uncons.map fun j => keep outline j
termination_by (x.length, 0)

/-- The items of a list and its closing bracket. -/
theorem trimsAt_items (outline : Outline) (room : Nat) (x : List Char) :
    TrimsAt (fun s => bare (items? outline room s)) x := by
  refine TrimsAt.congr (trimsAt_inside (by decide) ?_ ?_) fun w _ =>
    bare_items outline room (x ++ w)
  · intro w hw
    rw [bare_moreItems, bare_value_blanks _ room hw]
    rfl
  · exact fun s hs => trimsAt_moreItems outline 0 room s
termination_by (x.length, 2)
decreasing_by omega

/-- Items of which one is certain to come. -/
theorem trimsAt_moreItems (outline : Outline) (index room : Nat) (x : List Char) :
    TrimsAt (fun s => bare (moreItems? outline index room s)) x := by
  have hitems := (trimsAt_value (outline.item index) room x).bind fun j r hr =>
    have hlt : r.length < x.length := length_of_bare hr
    trimsAt_follow ']' (by decide)
      (fun t ht => trimsAt_moreItems outline (index + 1) room t) j
  exact hitems.congr fun w _ => bare_moreItems outline index room (x ++ w)
termination_by (x.length, 1)

/-- The members of an object and its closing brace. -/
theorem trimsAt_members (outline : Outline) (room : Nat) (x : List Char) :
    TrimsAt (fun s => bare (members? outline room s)) x := by
  refine TrimsAt.congr (trimsAt_inside (by decide) ?_ ?_) fun w _ =>
    bare_members outline room (x ++ w)
  · intro w hw
    rw [bare_moreMembers, bare_member, bare_key_blanks _ hw]
    rfl
  · exact fun s hs => trimsAt_moreMembers outline room s
termination_by (x.length, 2)
decreasing_by omega

/-- Members of which one is certain to come. -/
theorem trimsAt_moreMembers (outline : Outline) (room : Nat) (x : List Char) :
    TrimsAt (fun s => bare (moreMembers? outline room s)) x := by
  have hmembers := (trimsAt_member outline room x).bind fun m r hr =>
    have hlt : r.length < x.length := length_of_bare hr
    trimsAt_follow '\x7d' (by decide)
      (fun t ht => trimsAt_moreMembers outline room t) m
  exact hmembers.congr fun w _ => bare_moreMembers outline room (x ++ w)
termination_by (x.length, 1)

/-- One member, its key and its value. -/
theorem trimsAt_member (outline : Outline) (room : Nat) (x : List Char) :
    TrimsAt (fun s => bare (member? outline room s)) x := by
  have hmember := (trimsAt_key outline.isIgnored x).bind fun key r hr =>
    have hlt : r.length < x.length := length_of_bare hr
    (trimsAt_value (outline.member key) room r).map fun j => (key, j)
  exact hmember.congr fun w _ => bare_member outline room (x ++ w)
termination_by (x.length, 0)

end

/-- Blanks before a value do not matter for it: before it reads anything, it skips spaces, and
other blanks it does not read. -/
theorem bare_value_of_blanks_append {outline : Outline} {room : Nat} {front x : List Char}
    (hfront : Blanks front) {q : Json × List Char}
    (h : bare (value? outline room (front ++ x)) = some q) :
    bare (value? outline room x) = some q := by
  induction front with
  | nil => exact h
  | cons c front ih =>
    have hc := hfront c List.mem_cons_self
    refine ih (fun d hd => hfront d (List.mem_cons_of_mem _ hd)) ?_
    rw [bare_value, List.cons_append] at h
    -- a space is skipped, and any other blank would be the start of the value
    by_cases hspace : isSpace c = true
    · rwa [next_cons_of_isSpace hspace, ← bare_value] at h
    · rw [next_cons hspace, if_neg (ne_of_isBlank hc (by decide)),
        if_neg (ne_of_isBlank hc (by decide)), bare_scalar_of_isBlank hc] at h
      cases h

end Reader

/-- A document is read the same without the blanks around it, also where they are blanks that may
not stand in it. -/
theorem read?_trimLine {outline : Outline} {room : Nat} {text : String} {j : Json}
    (h : read? outline room text = some j) : read? outline room (trimLine text) = some j := by
  obtain ⟨r, hvalue, hr⟩ := read?_eq_some_iff.mp h
  obtain ⟨front, back, hfront, hback, htext⟩ := exists_eq_trimBlanks text.toList
  rw [htext] at hvalue
  -- the blanks behind are left over, those in front are passed over
  obtain ⟨r', rfl, hfound⟩ := Reader.trimsAt_value outline room _ hback hvalue
  rw [List.all_append, Bool.and_eq_true] at hr
  refine read?_eq_some_iff.mpr ⟨r', ?_, hr.1⟩
  rw [trimLine, String.toList_ofList]
  exact Reader.bare_value_of_blanks_append hfront hfound

end DashQuery.Json
