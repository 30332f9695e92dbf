import DashQuery.Json.Numeral
import DashQuery.Json.Outline

/-! # Reading JSON text

Strict JSON: four blank characters, no text after the value, no raw control
character and no half of a surrogate pair in a string.  Arrays and objects may be
nested as deep as the caller allows.

An `Outline` says which parts of the text matter.  A part that does not is only
passed over: its grammar is checked, but its numbers may be of any size, its
escapes any code units and its nesting any depth, and it is read as `null`.

Each reader hands back what is left of the text with a proof that it is shorter,
which is all that termination needs. -/

namespace DashQuery.Json

/-- What a reader leaves of `s`: less than it was given. -/
abbrev Rest (s : List Char) := { r : List Char // r.length < s.length }

namespace Reader

/-! ## Parts of a text grow shorter -/

theorem lt_of_lt_of_lt {s r r' : List Char} (hr : r.length < s.length)
    (hr' : r'.length < r.length) : r'.length < s.length :=
  Nat.lt_trans hr' hr

theorem lt_of_cons_le {s t : List Char} {c : Char} (h : (c :: t).length ≤ s.length) :
    t.length < s.length := h

theorem lt_of_lt_of_cons_le {s t r : List Char} {c : Char} (h : (c :: t).length ≤ s.length)
    (hr : r.length < t.length) : r.length < s.length :=
  Nat.lt_trans hr h

theorem lt_of_lt_cons_of_le {s t r : List Char} {c : Char} (h : (c :: t).length ≤ s.length)
    (hr : r.length < (c :: t).length) : r.length < s.length :=
  Nat.lt_of_lt_of_le hr h

theorem lt_of_cons_le_of_lt {s r t : List Char} {c : Char} (hr : r.length < s.length)
    (h : (c :: t).length ≤ r.length) : t.length < s.length :=
  Nat.lt_trans h hr

theorem lt_of_lt_of_cons_le_of_lt {s r t r' : List Char} {c : Char} (hr : r.length < s.length)
    (h : (c :: t).length ≤ r.length) (hr' : r'.length < t.length) : r'.length < s.length :=
  Nat.lt_trans (Nat.lt_trans hr' h) hr

/-! ## Characters and strings -/

/-- The four characters that may stand between the parts of a JSON text. -/
def isSpace (c : Char) : Bool := c == ' ' || c == '\t' || c == '\n' || c == '\r'

/-- `s` from its first significant character on. -/
def skip (s : List Char) : { r : List Char // r.length ≤ s.length } :=
  ⟨s.dropWhile isSpace, (List.dropWhile_sublist isSpace).length_le⟩

/-- The value of a hexadecimal digit. -/
def hexDigit? (c : Char) : Option Nat :=
  if '0' ≤ c ∧ c ≤ '9' then some (c.toNat - 48)
  else if 'a' ≤ c ∧ c ≤ 'f' then some (c.toNat - 87)
  else if 'A' ≤ c ∧ c ≤ 'F' then some (c.toNat - 55)
  else none

/-- The value of four hexadecimal digits. -/
def hex4? (a b c d : Char) : Option Nat := do
  return ((← hexDigit? a) * 16 + (← hexDigit? b)) * 256 + (← hexDigit? c) * 16 + (← hexDigit? d)

/-- The character of a two-character escape. -/
def escape? : Char → Option Char
  | '\x22' => some '\x22'
  | '\\' => some '\\'
  | '/' => some '/'
  | 'b' => some '\x08'
  | 'f' => some '\x0c'
  | 'n' => some '\n'
  | 'r' => some '\r'
  | 't' => some '\t'
  | _ => none

/-- The character of a numeric escape that starts with the code unit `hi`; the high half of a
surrogate pair needs the low half right after it, unless the string does not matter. -/
def unicodeEscape? (ignored : Bool) (hi : Nat) (t : List Char) :
    Option (Char × { r : List Char // r.length ≤ t.length }) :=
  if ignored then some (Char.ofNat hi, ⟨t, Nat.le_refl _⟩)
  else if 0xD800 ≤ hi ∧ hi < 0xDC00 then
    match t with
    | '\\' :: 'u' :: a :: b :: c :: d :: t' => do
      let lo ← hex4? a b c d
      if 0xDC00 ≤ lo ∧ lo < 0xE000 then
        return (Char.ofNat (0x10000 + (hi - 0xD800) * 0x400 + (lo - 0xDC00)),
          ⟨t', by simp only [List.length_cons]; omega⟩)
      else none
    | _ => none
  else if 0xDC00 ≤ hi ∧ hi < 0xE000 then none
  else some (Char.ofNat hi, ⟨t, Nat.le_refl _⟩)

/-- One character of a string, which may be written as an escape. -/
def stringChar? (ignored : Bool) (s : List Char) : Option (Char × Rest s) :=
  match s with
  | '\\' :: 'u' :: a :: b :: c :: d :: t => do
    let hi ← hex4? a b c d
    let (ch, ⟨r, hr⟩) ← unicodeEscape? ignored hi t
    return (ch, ⟨r, by simp only [List.length_cons]; omega⟩)
  | '\\' :: e :: t => do
    let ch ← escape? e
    return (ch, ⟨t, by simp only [List.length_cons]; omega⟩)
  | c :: t =>
    if c.toNat < 0x20 || c == '\\' then none
    else some (c, ⟨t, by simp⟩)
  | [] => none

/-- The rest of a string behind its opening quote, up to and with the closing one. -/
def stringBody? (ignored : Bool) (s : List Char) : Option (List Char × Rest s) :=
  match s with
  | [] => none
  | c :: t =>
    if c == '\x22' then some ([], ⟨t, by simp⟩)
    else
      match stringChar? ignored (c :: t) with
      | none => none
      | some (ch, ⟨r, hr⟩) =>
        match stringBody? ignored r with
        | none => none
        | some (cs, ⟨r', hr'⟩) => some (ch :: cs, ⟨r', Nat.lt_trans hr' hr⟩)
termination_by s.length
decreasing_by exact hr

/-- The leading digits of `s` and what follows them. -/
def digits (s : List Char) : List Nat × { r : List Char // r.length ≤ s.length } :=
  ((s.takeWhile Char.isDigit).map fun c => c.toNat - 48,
    ⟨s.dropWhile Char.isDigit, (List.dropWhile_sublist _).length_le⟩)

/-- The digits after a point, if there is a point; a point without a digit is refused. -/
def fraction? (s : List Char) :
    Option (Option (List Nat) × { r : List Char // r.length ≤ s.length }) :=
  match s with
  | '.' :: t =>
    match digits t with
    | ([], _) => none
    | (ds, ⟨r, hr⟩) => some (some ds, ⟨r, Nat.le_succ_of_le hr⟩)
  | t => some (none, ⟨t, Nat.le_refl _⟩)

/-- The sign and digits of an exponent behind its letter. -/
def signedDigits? (s : List Char) : Option (Int × { r : List Char // r.length ≤ s.length }) :=
  match s with
  | '-' :: t =>
    match digits t with
    | ([], _) => none
    | (ds, ⟨r, hr⟩) => some (-(Numeral.ofDigits ds : Int), ⟨r, Nat.le_succ_of_le hr⟩)
  | '+' :: t =>
    match digits t with
    | ([], _) => none
    | (ds, ⟨r, hr⟩) => some (Numeral.ofDigits ds, ⟨r, Nat.le_succ_of_le hr⟩)
  | t =>
    match digits t with
    | ([], _) => none
    | (ds, rest) => some (Numeral.ofDigits ds, rest)

/-- The exponent, if there is one. -/
def exponent? (s : List Char) :
    Option (Option Int × { r : List Char // r.length ≤ s.length }) :=
  match s with
  | c :: t =>
    if c == 'e' || c == 'E' then
      match signedDigits? t with
      | none => none
      | some (e, ⟨r, hr⟩) => some (some e, ⟨r, Nat.le_succ_of_le hr⟩)
    else some (none, ⟨c :: t, Nat.le_refl _⟩)
  | [] => some (none, ⟨[], Nat.le_refl _⟩)

/-- The digits before the point: a single zero, or digits that start with another one. -/
def whole? (s : List Char) : Option (List Nat × Rest s) :=
  match s with
  | '0' :: t =>
    match digits t with
    | ([], _) => some ([0], ⟨t, by simp⟩)
    | _ => none
  | c :: t =>
    if c.isDigit then
      match digits t with
      | (ds, ⟨r, hr⟩) => some ((c.toNat - 48) :: ds, ⟨r, Nat.lt_succ_of_le hr⟩)
    else none
  | [] => none

/-- A number without its sign; one that does not matter may have any size. -/
def unsigned? (ignored negative : Bool) (s : List Char) : Option (Json × Rest s) := do
  let (whole, ⟨r₁, h₁⟩) ← whole? s
  let (fraction, ⟨r₂, h₂⟩) ← fraction? r₁
  let (exponent, ⟨r₃, h₃⟩) ← exponent? r₂
  let value ←
    if ignored then some .null else (Numeral.mk negative whole fraction exponent).toJson?
  return (value, ⟨r₃, by omega⟩)

/-- A number. -/
def number? (ignored : Bool) (s : List Char) : Option (Json × Rest s) :=
  match s with
  | '-' :: t => do
    let (value, ⟨r, h⟩) ← unsigned? ignored true t
    return (value, ⟨r, Nat.lt_succ_of_lt h⟩)
  | t => unsigned? ignored false t

/-- One of the three words that are values. -/
def word? (s : List Char) : Option (Json × Rest s) :=
  match s with
  | 'n' :: 'u' :: 'l' :: 'l' :: t => some (.null, ⟨t, by simp only [List.length_cons]; omega⟩)
  | 't' :: 'r' :: 'u' :: 'e' :: t => some (.bool true, ⟨t, by simp only [List.length_cons]; omega⟩)
  | 'f' :: 'a' :: 'l' :: 's' :: 'e' :: t =>
    some (.bool false, ⟨t, by simp only [List.length_cons]; omega⟩)
  | _ => none

/-- A value that holds no other: a string, a word or a number. -/
def scalar? (ignored : Bool) (s : List Char) : Option (Json × Rest s) :=
  match s with
  | [] => none
  | c :: t =>
    if c == '\x22' then
      match stringBody? ignored t with
      | none => none
      | some (cs, ⟨r, hr⟩) => some (.str (String.ofList cs), ⟨r, Nat.lt_succ_of_lt hr⟩)
    else if c == '-' || c.isDigit then number? ignored (c :: t)
    else word? (c :: t)

/-- The key of a member and the colon behind it. -/
def key? (ignored : Bool) (s : List Char) : Option (String × Rest s) :=
  match skip s with
  | ⟨[], _⟩ => none
  | ⟨c :: t, h⟩ =>
    if c == '\x22' then
      match stringBody? ignored t with
      | none => none
      | some (key, ⟨r, hr⟩) =>
        match skip r with
        | ⟨[], _⟩ => none
        | ⟨d :: t₁, h₁⟩ =>
          if d == ':' then some (String.ofList key, ⟨t₁, by simp at h h₁; omega⟩) else none
    else none

/-- The room that is left inside an array or object; parts that do not matter need none. -/
def enter? (outline : Outline) (room : Nat) : Option Nat :=
  if outline.isIgnored then some room
  else
    match room with
    | 0 => none
    | room + 1 => some room

/-- A value that is kept if it matters. -/
def keep (outline : Outline) (j : Json) : Json := if outline.isIgnored then .null else j

mutual

/-- One value; `room` is how many arrays and objects may still be opened around its parts. -/
def value? (outline : Outline) (room : Nat) (s : List Char) : Option (Json × Rest s) :=
  match skip s with
  | ⟨[], _⟩ => none
  | ⟨c :: t, h⟩ =>
    if c == '[' then
      match enter? outline room with
      | none => none
      | some room =>
        match items? outline room t with
        | none => none
        | some (js, ⟨r, hr⟩) => some (keep outline (.arr js), ⟨r, lt_of_lt_of_cons_le h hr⟩)
    else if c == '\x7b' then
      match enter? outline room with
      | none => none
      | some room =>
        match members? outline room t with
        | none => none
        | some (ms, ⟨r, hr⟩) => some (keep outline (.obj ms), ⟨r, lt_of_lt_of_cons_le h hr⟩)
    else
      match scalar? outline.isIgnored (c :: t) with
      | none => none
      | some (j, ⟨r, hr⟩) => some (keep outline j, ⟨r, lt_of_lt_cons_of_le h hr⟩)
termination_by (s.length, 0)
decreasing_by all_goals (simp at h; omega)

/-- The items of an array behind its opening bracket, and the closing one. -/
def items? (outline : Outline) (room : Nat) (s : List Char) : Option (List Json × Rest s) :=
  match skip s with
  | ⟨[], _⟩ => none
  | ⟨c :: t, h⟩ =>
    if c == ']' then some ([], ⟨t, lt_of_cons_le h⟩)
    else moreItems? outline 0 room s
termination_by (s.length, 2)

/-- The items of an array from the one at `index`, which is certain to come, and the closing
bracket. -/
def moreItems? (outline : Outline) (index room : Nat) (s : List Char) :
    Option (List Json × Rest s) :=
  match value? (outline.item index) room s with
  | none => none
  | some (j, ⟨r, hr⟩) =>
    match skip r with
    | ⟨[], _⟩ => none
    | ⟨c :: t, h⟩ =>
      if c == ',' then
        match moreItems? outline (index + 1) room t with
        | none => none
        | some (js, ⟨r', hr'⟩) => some (j :: js, ⟨r', lt_of_lt_of_cons_le_of_lt hr h hr'⟩)
      else if c == ']' then some ([j], ⟨t, lt_of_cons_le_of_lt hr h⟩)
      else none
termination_by (s.length, 1)
decreasing_by all_goals ((try simp at h); omega)

/-- The members of an object behind its opening brace, and the closing one. -/
def members? (outline : Outline) (room : Nat) (s : List Char) :
    Option (List (String × Json) × Rest s) :=
  match skip s with
  | ⟨[], _⟩ => none
  | ⟨c :: t, h⟩ =>
    if c == '\x7d' then some ([], ⟨t, lt_of_cons_le h⟩)
    else moreMembers? outline room s
termination_by (s.length, 2)

/-- The members of an object from one that is certain to come, and the closing brace. -/
def moreMembers? (outline : Outline) (room : Nat) (s : List Char) :
    Option (List (String × Json) × Rest s) :=
  match member? outline room s with
  | none => none
  | some (m, ⟨r, hr⟩) =>
    match skip r with
    | ⟨[], _⟩ => none
    | ⟨c :: t, h⟩ =>
      if c == ',' then
        match moreMembers? outline room t with
        | none => none
        | some (ms, ⟨r', hr'⟩) => some (m :: ms, ⟨r', lt_of_lt_of_cons_le_of_lt hr h hr'⟩)
      else if c == '\x7d' then some ([m], ⟨t, lt_of_cons_le_of_lt hr h⟩)
      else none
termination_by (s.length, 1)
decreasing_by all_goals ((try simp at h); omega)

/-- One member of an object, its key and its value. -/
def member? (outline : Outline) (room : Nat) (s : List Char) :
    Option ((String × Json) × Rest s) :=
  match key? outline.isIgnored s with
  | none => none
  | some (key, ⟨r, hr⟩) =>
    match value? (outline.member key) room r with
    | none => none
    | some (j, ⟨r', hr'⟩) => some ((key, j), ⟨r', lt_of_lt_of_lt hr hr'⟩)
termination_by (s.length, 0)
decreasing_by omega

end

end Reader

/-- The value of a JSON text in which at most `room` arrays and objects are nested where it
matters. -/
def read? (outline : Outline) (room : Nat) (text : String) : Option Json :=
  match Reader.value? outline room text.toList with
  | some (j, ⟨r, _⟩) => if r.all Reader.isSpace then some j else none
  | none => none

/-- How deep a document may be nested. -/
def maxNesting : Nat := 127

/-- What matters of a JSON document. -/
def readDocument? (outline : Outline) (text : String) : Option Json :=
  read? outline maxNesting text

end DashQuery.Json
