import DashQuery.Json.Reader
import DashQuery.Json.Record
import Mathlib.Data.List.DropRight

/-!
# The readers' equations

Each reader hands back a proof with what it leaves of the text.  `bare` takes the proof
away, and each reader without it is put together from the ones it calls; those of lists
and objects go on behind the first character that is no space (`next`).

## Key results

- `bare_unsigned`, `bare_stringBody`, `bare_scalar`: values that hold no other
- `bare_value`, `bare_items`, `bare_moreItems`: values and lists
- `bare_member`, `bare_members`, `bare_moreMembers`: objects
- `read?_eq_some_iff`: documents
-/

namespace DashQuery.Json

namespace Reader

variable {α : Type}

/-- What a reader finds and leaves, without the proof that it leaves less. -/
def bare {p : List Char → Prop} (found : Option (α × { r : List Char // p r })) :
    Option (α × List Char) :=
  found.map fun f => (f.1, f.2.1)

/-- A reader leaves less than it was given, also where the proof is taken away. -/
theorem length_of_bare {s r : List Char} {found : Option (α × Rest s)} {a : α}
    (h : bare found = some (a, r)) : r.length < s.length := by
  obtain ⟨⟨a', r', hlt⟩, -, heq⟩ := Option.map_eq_some_iff.mp h
  obtain ⟨rfl, rfl⟩ := Prod.mk.inj heq
  exact hlt

/-! ## Numbers -/

/-- The leading digits, of which there is at least one. -/
def someDigits? (s : List Char) : Option (List Nat × List Char) :=
  if (digits s).1 = [] then none else some ((digits s).1, (digits s).2.1)

/-- Behind a point there are digits. -/
theorem bare_fraction_point (t : List Char) :
    bare (fraction? ('.' :: t)) = (someDigits? t).map fun q => (some q.1, q.2) := by
  rcases h : digits t with ⟨_ | ⟨d, ds⟩, r, hr⟩ <;> simp [fraction?, someDigits?, h, bare]

/-- Without a point there is no fraction. -/
theorem bare_fraction_other {s : List Char} (h : s.head? ≠ some '.') :
    bare (fraction? s) = some (none, s) := by
  unfold fraction?
  split
  · exact absurd rfl h
  · rfl

/-- An exponent below zero. -/
theorem bare_signed_minus (t : List Char) :
    bare (signedDigits? ('-' :: t)) =
      (someDigits? t).map fun q => (-(Numeral.ofDigits q.1 : Int), q.2) := by
  rcases h : digits t with ⟨_ | ⟨d, ds⟩, r, hr⟩ <;> simp [signedDigits?, someDigits?, h, bare]

/-- An exponent with a plus sign. -/
theorem bare_signed_plus (t : List Char) :
    bare (signedDigits? ('+' :: t)) =
      (someDigits? t).map fun q => ((Numeral.ofDigits q.1 : Int), q.2) := by
  rcases h : digits t with ⟨_ | ⟨d, ds⟩, r, hr⟩ <;> simp [signedDigits?, someDigits?, h, bare]

/-- An exponent without a sign. -/
theorem bare_signed_other {s : List Char} (hm : s.head? ≠ some '-') (hp : s.head? ≠ some '+') :
    bare (signedDigits? s) = (someDigits? s).map fun q => ((Numeral.ofDigits q.1 : Int), q.2) := by
  unfold signedDigits?
  split
  · exact absurd rfl hm
  · exact absurd rfl hp
  · rcases h : digits s with ⟨_ | ⟨d, ds⟩, r, hr⟩ <;> simp [someDigits?, h, bare]

/-- Behind its letter the exponent has a sign or none, and digits. -/
theorem bare_exponent_letter {c : Char} (hc : c = 'e' ∨ c = 'E') (t : List Char) :
    bare (exponent? (c :: t)) = (bare (signedDigits? t)).map fun q => (some q.1, q.2) := by
  rcases h : signedDigits? t with _ | ⟨e, r, hr⟩ <;> simp [exponent?, hc, h, bare]

/-- Without its letter there is no exponent. -/
theorem bare_exponent_other {s : List Char} (he : s.head? ≠ some 'e') (hE : s.head? ≠ some 'E') :
    bare (exponent? s) = some (none, s) := by
  cases s with
  | nil => rfl
  | cons c t =>
    rw [List.head?_cons, ne_eq, Option.some.injEq] at he hE
    simp [exponent?, he, hE, bare]

/-- A zero in front has no digit behind it. -/
theorem bare_whole_zero (t : List Char) :
    bare (whole? ('0' :: t)) = if (digits t).1 = [] then some ([0], t) else none := by
  rcases h : digits t with ⟨_ | ⟨d, ds⟩, r, hr⟩ <;> simp [whole?, h, bare]

/-- Any other digit in front has digits behind it. -/
theorem bare_whole_other {c : Char} (t : List Char) (hc : c ≠ '0') :
    bare (whole? (c :: t)) =
      if c.isDigit then some ((c.toNat - 48) :: (digits t).1, (digits t).2.1) else none := by
  by_cases hd : c.isDigit = true <;> simp [whole?, hd, bare]

/-- The value of a number whose parts are read. -/
def valueOf? (ignored negative : Bool) (whole : List Nat) (fraction : Option (List Nat))
    (exponent : Option Int) : Option Json :=
  if ignored then some .null else (Numeral.mk negative whole fraction exponent).toJson?

/-- A number without its sign: the digits in front, the fraction, the exponent, and its value. -/
theorem bare_unsigned (ignored negative : Bool) (s : List Char) :
    bare (unsigned? ignored negative s) =
      (bare (whole? s)).bind fun q₁ => (bare (fraction? q₁.2)).bind fun q₂ =>
        (bare (exponent? q₂.2)).bind fun q₃ =>
          (valueOf? ignored negative q₁.1 q₂.1 q₃.1).map fun value => (value, q₃.2) := by
  -- whichever part is missing, the number is none
  rcases h₁ : whole? s with _ | ⟨whole, r₁, hr₁⟩
  · simp [unsigned?, h₁, bare]
  rcases h₂ : fraction? r₁ with _ | ⟨fraction, r₂, hr₂⟩
  · simp [unsigned?, h₁, h₂, bare]
  rcases h₃ : exponent? r₂ with _ | ⟨exponent, r₃, hr₃⟩
  · simp [unsigned?, h₁, h₂, h₃, bare]
  -- all parts are there; only a number that matters is evaluated
  cases ignored with
  | true => simp [unsigned?, h₁, h₂, h₃, bare, valueOf?]
  | false =>
    rcases h₄ : (Numeral.mk negative whole fraction exponent).toJson? with _ | value <;>
      simp [unsigned?, h₁, h₂, h₃, h₄, bare, valueOf?]

/-- A number below zero. -/
theorem bare_number_minus (ignored : Bool) (t : List Char) :
    bare (number? ignored ('-' :: t)) = bare (unsigned? ignored true t) := by
  rcases h : unsigned? ignored true t with _ | ⟨value, r, hr⟩ <;> simp [number?, h, bare]

/-- A number without a sign. -/
theorem bare_number_other (ignored : Bool) {s : List Char} (hs : s.head? ≠ some '-') :
    bare (number? ignored s) = bare (unsigned? ignored false s) := by
  unfold number?
  split
  · exact absurd rfl hs
  · rfl

/-! ## Strings -/

/-- The low half of a surrogate pair whose high half is `hi`, and the character of the pair. -/
theorem bare_lowHalf_iff {hi : Nat} {s r : List Char} {ch : Char}
    (hhigh : 0xD800 ≤ hi ∧ hi < 0xDC00) :
    bare (unicodeEscape? false hi s) = some (ch, r) ↔
      ∃ a b c d lo, s = ['\\', 'u', a, b, c, d] ++ r ∧ hex4? a b c d = some lo ∧
        (0xDC00 ≤ lo ∧ lo < 0xE000) ∧
        ch = Char.ofNat (0x10000 + (hi - 0xD800) * 0x400 + (lo - 0xDC00)) := by
  constructor
  · intro h
    simp only [unicodeEscape?, Bool.false_eq_true, if_false, if_pos hhigh] at h
    split at h
    · next a b c d t =>
      rcases hhex : hex4? a b c d with _ | lo
      · simp [hhex, bare] at h
      by_cases hlow : 0xDC00 ≤ lo ∧ lo < 0xE000
      · simp [hhex, hlow, bare] at h
        exact ⟨a, b, c, d, lo, by simp [h.2], hhex, hlow, h.1.symm⟩
      · simp [hhex, hlow, bare] at h
    · cases h
  -- the second code unit is put together again
  · rintro ⟨a, b, c, d, lo, rfl, hhex, hlow, hch⟩
    rw [hch]
    simp only [unicodeEscape?, Bool.false_eq_true, if_false, if_pos hhigh, List.cons_append,
      List.nil_append, hhex, Option.bind_eq_bind, Option.bind_some, if_pos hlow, Option.pure_def,
      bare, Option.map_some]

/-- A code unit that is no half of a pair is a character by itself; so is any that does not matter.
-/
theorem bare_unicodeEscape_self {ignored : Bool} {hi : Nat}
    (hhigh : ¬(ignored = false ∧ 0xD800 ≤ hi ∧ hi < 0xDC00))
    (hself : ignored = true ∨ ¬(0xDC00 ≤ hi ∧ hi < 0xE000)) (s : List Char) :
    bare (unicodeEscape? ignored hi s) = some (Char.ofNat hi, s) := by
  cases ignored with
  | true => simp only [unicodeEscape?, if_true, bare, Option.map_some]
  | false =>
    have hno : ¬(0xD800 ≤ hi ∧ hi < 0xDC00) := fun h => hhigh ⟨rfl, h⟩
    have hnolow : ¬(0xDC00 ≤ hi ∧ hi < 0xE000) := hself.resolve_left (by decide)
    simp only [unicodeEscape?, Bool.false_eq_true, if_false, if_neg hno, if_neg hnolow, bare,
      Option.map_some]

/-- The second half of a pair is no character without the first. -/
theorem bare_unicodeEscape_low {ignored : Bool} {hi : Nat}
    (hhigh : ¬(ignored = false ∧ 0xD800 ≤ hi ∧ hi < 0xDC00))
    (hlow : ¬(ignored = true ∨ ¬(0xDC00 ≤ hi ∧ hi < 0xE000))) (s : List Char) :
    bare (unicodeEscape? ignored hi s) = none := by
  simp only [not_or, Bool.not_eq_true, Decidable.not_not] at hlow
  obtain ⟨rfl, hlow⟩ := hlow
  have hno : ¬(0xD800 ≤ hi ∧ hi < 0xDC00) := fun h => hhigh ⟨rfl, h⟩
  simp only [unicodeEscape?, Bool.false_eq_true, if_false, if_neg hno, if_pos hlow, bare,
    Option.map_none]

/-- The three ways in which `ch` may stand in a string in front of `r`. -/
inductive Spelled (ignored : Bool) (ch : Char) (r s : List Char) : Prop where
  /-- A code unit, with a second one behind it if it is the first half of a pair. -/
  | unit {a b c d : Char} {t : List Char} {hi : Nat} (hs : s = ['\\', 'u', a, b, c, d] ++ t)
      (hhex : hex4? a b c d = some hi) (hchar : bare (unicodeEscape? ignored hi t) = some (ch, r))
  /-- A backslash and a letter. -/
  | escape {e : Char} (hs : s = ['\\', e] ++ r) (hchar : escape? e = some ch)
  /-- Itself. -/
  | plain (hs : s = ch :: r) (hmin : 0x20 ≤ ch.toNat) (hne : ch ≠ '\\')

/-- A character that is read is written in one of the three ways. -/
theorem spelled_of_stringChar {ignored : Bool} {s r : List Char} {ch : Char}
    (h : bare (stringChar? ignored s) = some (ch, r)) : Spelled ignored ch r s := by
  -- the reader's cases are the three ways, and the end of the text
  unfold stringChar? at h
  split at h
  · next a b c d t =>
    rcases hhex : hex4? a b c d with _ | hi
    · simp [hhex, bare] at h
    rcases hesc : unicodeEscape? ignored hi t with _ | ⟨ch', r', hr'⟩
    · simp [hhex, hesc, bare] at h
    · simp [hhex, hesc, bare] at h
      exact .unit rfl hhex (by simp [hesc, bare, h])
  · next e t _ =>
    rcases hesc : escape? e with _ | ch'
    · simp [hesc, bare] at h
    · simp [hesc, bare] at h
      obtain ⟨rfl, rfl⟩ := h
      exact .escape rfl hesc
  · next c t _ _ =>
    split at h
    · cases h
    · next hc =>
      simp [bare] at h hc
      obtain ⟨rfl, rfl⟩ := h
      exact .plain rfl hc.1 hc.2
  · cases h

/-- Each of the three ways is read as the character. -/
theorem Spelled.stringChar {ignored : Bool} {s r : List Char} {ch : Char}
    (h : Spelled ignored ch r s) : bare (stringChar? ignored s) = some (ch, r) := by
  cases h with
  | @unit a b c d t hi hs hhex hchar =>
    rcases hu : unicodeEscape? ignored hi t with _ | ⟨ch', r', hr'⟩
    · simp [hu, bare] at hchar
    · simp [hu, bare] at hchar
      subst hs
      simp [stringChar?, hhex, hu, bare, hchar]
  | @escape e hs hchar =>
    -- the letter of a code unit is none of the escapes
    have hne : e ≠ 'u' := by
      rintro rfl
      simp [escape?] at hchar
    subst hs
    simp [stringChar?, hne, hchar, bare]
  | plain hs hmin hne =>
    subst hs
    simp [stringChar?, hne, bare]
    omega

/-- The rest of a string is its closing quote, or a character and the rest behind it. -/
theorem bare_stringBody (ignored : Bool) (c : Char) (t : List Char) :
    bare (stringBody? ignored (c :: t)) =
      if c = '\x22' then some ([], t)
      else (bare (stringChar? ignored (c :: t))).bind fun q =>
        (bare (stringBody? ignored q.2)).map fun q' => (q.1 :: q'.1, q'.2) := by
  rw [stringBody?]
  by_cases hc : c = '\x22'
  · simp [hc, bare]
  -- no quote, so a character has to come
  · rcases h : stringChar? ignored (c :: t) with _ | ⟨ch, r, hr⟩
    · simp [hc, bare]
    rcases h' : stringBody? ignored r with _ | ⟨cs, r', hr'⟩ <;> simp [hc, h', bare]

/-- Whether a character may stand in a string as it is. -/
def isPlain (c : Char) : Bool := 0x20 ≤ c.toNat && c != '\x22' && c != '\\'

/-- Plain characters are read as they stand, up to the closing quote. -/
theorem bare_stringBody_plain {ignored : Bool} {cs : List Char} (h : cs.all isPlain = true)
    (t : List Char) : bare (stringBody? ignored (cs ++ '\x22' :: t)) = some (cs, t) := by
  induction cs with
  | nil => rw [List.nil_append, bare_stringBody, if_pos rfl]
  | cons c cs ih =>
    simp only [List.all_cons, isPlain, Bool.and_eq_true, decide_eq_true_iff, bne_iff_ne] at h
    obtain ⟨⟨⟨hmin, hquote⟩, hne⟩, hcs⟩ := h
    have hc : bare (stringChar? ignored (c :: (cs ++ '\x22' :: t))) =
        some (c, cs ++ '\x22' :: t) := Spelled.stringChar (.plain rfl hmin hne)
    rw [List.cons_append, bare_stringBody, if_neg hquote, hc, Option.bind_some, ih hcs]
    rfl

/-- A value that holds no other starts with a quote if it is a string and with a sign or a digit if
it is a number. -/
theorem bare_scalar (ignored : Bool) (c : Char) (t : List Char) :
    bare (scalar? ignored (c :: t)) =
      if c = '\x22' then (bare (stringBody? ignored t)).map fun q => (.str (String.ofList q.1), q.2)
      else if c = '-' ∨ c.isDigit then bare (number? ignored (c :: t))
      else bare (word? (c :: t)) := by
  by_cases hc : c = '\x22'
  · rcases h : stringBody? ignored t with _ | ⟨cs, r, hr⟩ <;> simp [scalar?, hc, h, bare]
  · by_cases hd : c = '-' ∨ c.isDigit <;> simp [scalar?, hc, hd]

/-! ## Values that are no records -/

/-- The value of a number is no record. -/
theorem fields?_of_valueOf? {ignored negative : Bool} {whole : List Nat}
    {fraction : Option (List Nat)} {exponent : Option Int} {j : Json}
    (h : valueOf? ignored negative whole fraction exponent = some j) (names : List String) :
    fields? names j = none := by
  unfold valueOf? at h
  split at h
  · rw [← Option.some.inj h]
    rfl
  -- a numeral is a whole number or a double
  have hdouble : ∀ x : Option Double, x.map Json.double = some j → fields? names j = none := by
    intro x hx
    obtain ⟨x, -, rfl⟩ := Option.map_eq_some_iff.mp hx
    rfl
  unfold Numeral.toJson? at h
  simp only at h
  split at h
  · split at h
    · rw [← Option.some.inj h]
      rfl
    · split at h
      · rw [← Option.some.inj h]
        rfl
      · exact hdouble _ h
  · exact hdouble _ h

/-- A number is no record. -/
theorem fields?_of_number {ignored : Bool} {s r : List Char} {j : Json}
    (h : bare (number? ignored s) = some (j, r)) (names : List String) :
    fields? names j = none := by
  -- only the value matters, with a sign or without
  have hunsigned : ∀ negative t, bare (unsigned? ignored negative t) = some (j, r) →
      fields? names j = none := by
    intro negative t ht
    rw [bare_unsigned] at ht
    obtain ⟨q₁, -, ht⟩ := Option.bind_eq_some_iff.mp ht
    obtain ⟨q₂, -, ht⟩ := Option.bind_eq_some_iff.mp ht
    obtain ⟨q₃, -, ht⟩ := Option.bind_eq_some_iff.mp ht
    obtain ⟨value, hvalue, ht⟩ := Option.map_eq_some_iff.mp ht
    rw [← (Prod.mk.inj ht).1]
    exact fields?_of_valueOf? hvalue names
  by_cases hs : s.head? = some '-'
  · obtain ⟨t, rfl⟩ := List.head?_eq_some_iff.mp hs
    exact hunsigned true t (by rwa [bare_number_minus] at h)
  · exact hunsigned false s (by rwa [bare_number_other ignored hs] at h)

/-- A word is no record. -/
theorem fields?_of_word {s r : List Char} {j : Json} (h : bare (word? s) = some (j, r))
    (names : List String) : fields? names j = none := by
  -- one of the three words, or nothing
  unfold word? at h
  split at h
  · rw [← (Prod.mk.inj (Option.some.inj h)).1]
    rfl
  · rw [← (Prod.mk.inj (Option.some.inj h)).1]
    rfl
  · rw [← (Prod.mk.inj (Option.some.inj h)).1]
    rfl
  · cases h

/-- A string, a number or a word is no record. -/
theorem fields?_of_scalar {ignored : Bool} {c : Char} {t r : List Char} {j : Json}
    (h : bare (scalar? ignored (c :: t)) = some (j, r)) (names : List String) :
    fields? names j = none := by
  rw [bare_scalar] at h
  split at h
  · obtain ⟨q, -, hq⟩ := Option.map_eq_some_iff.mp h
    rw [← (Prod.mk.inj hq).1]
    rfl
  split at h
  · exact fields?_of_number h names
  · exact fields?_of_word h names

/-! ## Readers that skip spaces first -/

/-- What a reader does that goes on behind the first significant character. -/
def next (g : Char → List Char → Option (α × List Char)) (s : List Char) :
    Option (α × List Char) :=
  match s.dropWhile isSpace with
  | [] => none
  | c :: t => g c t

/-- A space in front is passed over. -/
theorem next_cons_of_isSpace {g : Char → List Char → Option (α × List Char)} {c : Char}
    {t : List Char} (hc : isSpace c = true) : next g (c :: t) = next g t := by
  rw [next, List.dropWhile_cons_of_pos hc, next]

/-- Any other character is looked at. -/
theorem next_cons {g : Char → List Char → Option (α × List Char)} {c : Char} {t : List Char}
    (hc : ¬isSpace c = true) : next g (c :: t) = g c t := by
  rw [next, List.dropWhile_cons_of_neg hc]

/-- It makes no difference if the spaces are taken off before. -/
theorem next_dropWhile (g : Char → List Char → Option (α × List Char)) (s : List Char) :
    next g (s.dropWhile isSpace) = next g s := by
  rw [next, List.dropWhile_idempotent]
  rfl

/-- What is left behind the spaces. -/
theorem skip_val {s r : List Char} {h : r.length ≤ s.length} (hs : skip s = ⟨r, h⟩) :
    s.dropWhile isSpace = r :=
  congrArg Subtype.val hs

/-- What is left behind the first significant character is shorter than the text. -/
theorem lt_of_dropWhile {s t : List Char} {c : Char} (h : s.dropWhile isSpace = c :: t) :
    t.length < s.length := by
  have hle := (List.dropWhile_sublist (l := s) isSpace).length_le
  rw [h] at hle
  exact lt_of_cons_le hle

/-- What follows the item `a` of a list: a comma and more items, or the closing bracket. -/
def follow (close : Char) (more : List Char → Option (List α × List Char)) (a : α) :
    List Char → Option (List α × List Char) :=
  next fun c t =>
    if c = ',' then (more t).map fun q => (a :: q.1, q.2)
    else if c = close then some ([a], t)
    else none

/-- What is behind an opening bracket: the closing one, or items. -/
def inside (close : Char) (more : List Char → Option (List α × List Char)) :
    List Char → Option (List α × List Char) :=
  next fun c t => if c = close then some ([], t) else more (c :: t)

/-- A key is a string with a colon behind it. -/
theorem bare_key (ignored : Bool) (s : List Char) :
    bare (key? ignored s) =
      next (fun c t =>
        if c = '\x22' then (bare (stringBody? ignored t)).bind fun q =>
          next (fun d t => if d = ':' then some (String.ofList q.1, t) else none) q.2
        else none) s := by
  -- the quote, the string, and then the colon
  rcases hs : skip s with ⟨_ | ⟨c, t⟩, h⟩
  · simp [key?, next, hs, skip_val hs, bare]
  by_cases hc : c = '\x22'
  · rcases hbody : stringBody? ignored t with _ | ⟨key, r, hr⟩
    · simp [key?, next, hs, skip_val hs, hc, hbody, bare]
    rcases hr' : skip r with ⟨_ | ⟨d, t₁⟩, h₁⟩
    · simp [key?, next, hs, skip_val hs, hc, hbody, hr', skip_val hr', bare]
    by_cases hd : d = ':' <;>
      simp [key?, next, hs, skip_val hs, hc, hbody, hr', skip_val hr', hd, bare]
  · simp [key?, next, hs, skip_val hs, hc, bare]

/-- A key of plain characters is read as it stands. -/
theorem bare_key_plain {ignored : Bool} {cs : List Char} (h : cs.all isPlain = true)
    (t : List Char) :
    bare (key? ignored ('\x22' :: (cs ++ '\x22' :: ':' :: t))) = some (String.ofList cs, t) := by
  rw [bare_key, next_cons (by decide), if_pos rfl, bare_stringBody_plain h, Option.bind_some,
    next_cons (by decide), if_pos rfl]

/-! ## Values -/

/-- A value is a list, an object, or one that holds no other. -/
theorem bare_value (outline : Outline) (room : Nat) (s : List Char) :
    bare (value? outline room s) =
      next (fun c t =>
        if c = '[' then (enter? outline room).bind fun room =>
          (bare (items? outline room t)).map fun q => (keep outline (.arr q.1), q.2)
        else if c = '\x7b' then (enter? outline room).bind fun room =>
          (bare (members? outline room t)).map fun q => (keep outline (.obj q.1), q.2)
        else (bare (scalar? outline.isIgnored (c :: t))).map fun q =>
          (keep outline q.1, q.2)) s := by
  rw [value?]
  rcases hs : skip s with ⟨_ | ⟨c, t⟩, h⟩
  · simp [next, skip_val hs, bare]
  -- the first significant character says which of the three it is
  by_cases hbracket : c = '['
  · rcases hroom : enter? outline room with _ | inner
    · simp [next, skip_val hs, hbracket, bare]
    rcases hitems : items? outline inner t with _ | ⟨js, r, hr⟩ <;>
      simp [next, skip_val hs, hbracket, hitems, bare]
  by_cases hbrace : c = '\x7b'
  · rcases hroom : enter? outline room with _ | inner
    · simp [next, skip_val hs, hbrace, bare]
    rcases hmembers : members? outline inner t with _ | ⟨ms, r, hr⟩ <;>
      simp [next, skip_val hs, hbrace, hmembers, bare]
  · rcases hscalar : scalar? outline.isIgnored (c :: t) with _ | ⟨j, r, hr⟩ <;>
      simp [next, skip_val hs, hbracket, hbrace, hscalar, bare]

/-- A string of plain characters that matters is read as it stands. -/
theorem bare_value_plain {cs : List Char} (h : cs.all isPlain = true) (room : Nat) (t : List Char) :
    bare (value? .whole room ('\x22' :: (cs ++ '\x22' :: t))) =
      some (.str (String.ofList cs), t) := by
  rw [bare_value, next_cons (by decide), if_neg (by decide), if_neg (by decide), bare_scalar,
    if_pos rfl, bare_stringBody_plain h]
  rfl

/-- Items of which one is certain to come: that one, and what follows it. -/
theorem bare_moreItems (outline : Outline) (index room : Nat) (s : List Char) :
    bare (moreItems? outline index room s) =
      (bare (value? (outline.item index) room s)).bind fun q =>
        follow ']' (fun t => bare (moreItems? outline (index + 1) room t)) q.1 q.2 := by
  rw [moreItems?]
  rcases hvalue : value? (outline.item index) room s with _ | ⟨j, r, hr⟩
  · simp [bare]
  rcases hs : skip r with ⟨_ | ⟨c, t⟩, h⟩
  · simp [follow, next, hs, skip_val hs, bare]
  -- a comma, the closing bracket, or neither
  by_cases hcomma : c = ','
  · rcases hmore : moreItems? outline (index + 1) room t with _ | ⟨js, r', hr'⟩ <;>
      simp [follow, next, hs, skip_val hs, hcomma, hmore, bare]
  · by_cases hc : c = ']' <;> simp [follow, next, hs, skip_val hs, hcomma, hc, bare]

/-- The spaces before a list's first item do not matter for it. -/
theorem bare_moreItems_dropWhile (outline : Outline) (index room : Nat) (s : List Char) :
    bare (moreItems? outline index room (s.dropWhile isSpace)) =
      bare (moreItems? outline index room s) := by
  rw [bare_moreItems, bare_moreItems, bare_value, bare_value, next_dropWhile]

/-- A space in front of a value is passed over. -/
theorem bare_value_space {c : Char} (hc : isSpace c = true) (outline : Outline) (room : Nat)
    (t : List Char) : bare (value? outline room (c :: t)) = bare (value? outline room t) := by
  rw [bare_value, bare_value, next_cons_of_isSpace hc]

/-- The items of a list: none, or one that is certain to come and more. -/
theorem bare_items (outline : Outline) (room : Nat) (s : List Char) :
    bare (items? outline room s) =
      inside ']' (fun s => bare (moreItems? outline 0 room s)) s := by
  rw [items?]
  rcases hs : skip s with ⟨_ | ⟨c, t⟩, h⟩
  · simp [inside, next, skip_val hs, bare]
  by_cases hc : c = ']'
  · simp [inside, next, skip_val hs, hc, bare]
  · have hmore := bare_moreItems_dropWhile outline 0 room s
    rw [skip_val hs] at hmore
    simp [inside, next, skip_val hs, hc, hmore]

/-- A member is a key and a value. -/
theorem bare_member (outline : Outline) (room : Nat) (s : List Char) :
    bare (member? outline room s) =
      (bare (key? outline.isIgnored s)).bind fun q =>
        (bare (value? (outline.member q.1) room q.2)).map fun q' => ((q.1, q'.1), q'.2) := by
  rw [member?]
  rcases hkey : key? outline.isIgnored s with _ | ⟨key, r, hr⟩
  · simp [bare]
  rcases hvalue : value? (outline.member key) room r with _ | ⟨j, r', hr'⟩ <;>
    simp [hvalue, bare]

/-- Members of which one is certain to come: that one, and what follows it. -/
theorem bare_moreMembers (outline : Outline) (room : Nat) (s : List Char) :
    bare (moreMembers? outline room s) =
      (bare (member? outline room s)).bind fun q =>
        follow '\x7d' (fun t => bare (moreMembers? outline room t)) q.1 q.2 := by
  rw [moreMembers?]
  rcases hmember : member? outline room s with _ | ⟨m, r, hr⟩
  · simp [bare]
  rcases hs : skip r with ⟨_ | ⟨c, t⟩, h⟩
  · simp [follow, next, hs, skip_val hs, bare]
  -- a comma, the closing brace, or neither
  by_cases hcomma : c = ','
  · rcases hmore : moreMembers? outline room t with _ | ⟨ms, r', hr'⟩ <;>
      simp [follow, next, hs, skip_val hs, hcomma, hmore, bare]
  · by_cases hc : c = '\x7d' <;> simp [follow, next, hs, skip_val hs, hcomma, hc, bare]

/-- The spaces before an object's first member do not matter for it. -/
theorem bare_moreMembers_dropWhile (outline : Outline) (room : Nat) (s : List Char) :
    bare (moreMembers? outline room (s.dropWhile isSpace)) =
      bare (moreMembers? outline room s) := by
  rw [bare_moreMembers, bare_moreMembers, bare_member, bare_member, bare_key, bare_key,
    next_dropWhile]

/-- The members of an object: none, or one that is certain to come and more. -/
theorem bare_members (outline : Outline) (room : Nat) (s : List Char) :
    bare (members? outline room s) =
      inside '\x7d' (fun s => bare (moreMembers? outline room s)) s := by
  rw [members?]
  rcases hs : skip s with ⟨_ | ⟨c, t⟩, h⟩
  · simp [inside, next, skip_val hs, bare]
  by_cases hc : c = '\x7d'
  · simp [inside, next, skip_val hs, hc, bare]
  · have hmore := bare_moreMembers_dropWhile outline room s
    rw [skip_val hs] at hmore
    simp [inside, next, skip_val hs, hc, hmore]

end Reader

/-- A document is a value with nothing but spaces behind it. -/
theorem read?_eq_some_iff {outline : Outline} {room : Nat} {text : String} {j : Json} :
    read? outline room text = some j ↔
      ∃ r, Reader.bare (Reader.value? outline room text.toList) = some (j, r) ∧
        r.all Reader.isSpace = true := by
  unfold read?
  rcases Reader.value? outline room text.toList with _ | ⟨j', r, hr⟩ <;>
    simp [Reader.bare, and_comm]

/-- A document that starts with neither a bracket nor a brace is no record. -/
theorem fields?_of_read? {outline : Outline} {room : Nat} {text : String} {j : Json}
    (h : read? outline room text = some j) {c : Char} (hhead : text.toList.head? = some c)
    (hspace : ¬Reader.isSpace c = true) (hbracket : c ≠ '[') (hbrace : c ≠ '\x7b')
    (names : List String) : fields? names j = none := by
  obtain ⟨r, hvalue, -⟩ := read?_eq_some_iff.mp h
  obtain ⟨t, ht⟩ := List.head?_eq_some_iff.mp hhead
  rw [ht, Reader.bare_value, Reader.next_cons hspace, if_neg hbracket, if_neg hbrace] at hvalue
  -- so it is a value that holds no other, kept or not
  obtain ⟨⟨j', r'⟩, hscalar, heq⟩ := Option.map_eq_some_iff.mp hvalue
  rw [← (Prod.mk.inj heq).1, Reader.keep]
  split
  · rfl
  · exact Reader.fields?_of_scalar hscalar names

end DashQuery.Json
