import DashQuery.Json.Value
import DashQuery.Number.Word

/-! # Records in JSON

A record is an object with known fields, or an array of its fields in their order
of declaration.  Fields it does not know are passed over; a known one that occurs
twice makes it no record, and so does an array with too many items.  Fields that
are missing at the end of an array are missing from the record, as from an object.

An enumeration is written as a string, or as an object with the name as its only
key and `null` as its value. -/

namespace DashQuery.Json

/-- The fields of a record in their order of declaration, each with its value if it is there. -/
def fields? (names : List String) : Json → Option (List (Option Json))
  | .obj members =>
    if names.all fun name => (members.filter fun m => m.1 == name).length ≤ 1 then
      some (names.map fun name => members.lookup name)
    else none
  | .arr items =>
    if items.length ≤ names.length then
      some (items.map some ++ List.replicate (names.length - items.length) none)
    else none
  | _ => none

/-- A field that must be there. -/
def required {α : Type} (decode : Json → Option α) : Option Json → Option α
  | some j => decode j
  | none => none

/-- A field that may be missing, and has a default then. -/
def withDefault {α : Type} (default : α) (decode : Json → Option α) : Option Json → Option α
  | some j => decode j
  | none => some default

/-- A field that may be missing or `null`. -/
def optional {α : Type} (decode : Json → Option α) : Option Json → Option (Option α)
  | none => some none
  | some .null => some none
  | some j => (decode j).map some

/-- A string. -/
def string? : Json → Option String
  | .str s => some s
  | _ => none

/-- A whole number that fits 64 bits without sign. -/
def word? : Json → Option UInt64
  | .int n => if 0 ≤ n ∧ n < wordBound then some n.toNat.toUInt64 else none
  | _ => none

/-- An array all of whose items can be decoded. -/
def list? {α : Type} (decode : Json → Option α) : Json → Option (List α)
  | .arr items => items.mapM decode
  | _ => none

/-- The name under which a value of an enumeration is written. -/
def variant? : Json → Option String
  | .str name => some name
  | .obj [(name, .null)] => some name
  | _ => none

/-- A string, or `null` where there is none. -/
def ofOption {α : Type} (encode : α → Json) : Option α → Json
  | some a => encode a
  | none => .null

/-! ## What is written is read -/

/-- The default is not asked for where a value is. -/
theorem withDefault_some {α : Type} (default : α) (decode : Json → Option α) (j : Json) :
    withDefault default decode (some j) = decode j := by
  unfold withDefault
  rfl

/-- A machine word is read back. -/
theorem word?_ofNat (n : UInt64) : word? (.int n.toNat) = some n := by
  have h := toNat_lt_wordBound n
  simp only [word?, Int.toNat_natCast, UInt64.ofNat_toNat, Nat.toUInt64_eq]
  rw [if_pos ⟨by omega, by omega⟩]

/-- A value that may be missing is read back, if no value is written as `null`. -/
theorem optional_ofOption {α : Type} {decode : Json → Option α} {encode : α → Json}
    (h : ∀ a, decode (encode a) = some a) (hn : ∀ a, encode a ≠ .null) (o : Option α) :
    optional decode (some (ofOption encode o)) = some o := by
  cases o with
  | none => rfl
  | some a =>
    unfold ofOption optional
    split
    · next heq => simp at heq
    · next heq => exact absurd (Option.some.inj heq) (hn a)
    · next heq => rw [← Option.some.inj heq, h]; rfl

/-- A list is read back if its members are. -/
theorem mapM_map {α : Type} {decode : Json → Option α} {encode : α → Json}
    (h : ∀ a, decode (encode a) = some a) (xs : List α) :
    (xs.map encode).mapM decode = some xs := by
  induction xs with
  | nil => rfl
  | cons x xs ih => simp [h, ih]

/-- A list of encoded values is decoded to the values. -/
theorem list?_map {α : Type} {decode : Json → Option α} {encode : α → Json}
    (h : ∀ a, decode (encode a) = some a) (xs : List α) :
    list? decode (.arr (xs.map encode)) = some xs :=
  mapM_map h xs

end DashQuery.Json
