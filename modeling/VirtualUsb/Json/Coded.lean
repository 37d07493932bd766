import VirtualUsb.Json.Library

/-!
# Values as JSON

`Coded` ties a type to its JSON form, which a library takes apart. A record is an object of its
fields, and a choice is the name of one of its values.
-/

namespace VirtualUsb

/-- A type with a JSON form. -/
class Coded (α : Type) where
  toJson : α → Json
  ofJson? : Json.Library → Json → Option α

export Coded (toJson)

namespace Json.Library

variable (lib : Library) {α : Type}

/-- A field that must be there. -/
def required [Coded α] (field : Option Json) : Option α := field.bind (Coded.ofJson? lib)

/-- A field that has a default. -/
def optional [Coded α] (default : α) : Option Json → Option α
  | none => some default
  | some v => Coded.ofJson? lib v

/-- The one of `all` values that is meant by its name. -/
def choice? (all : List α) (name : α → String) (v : Json) : Option α :=
  (lib.variant v).bind fun s => all.find? (name · == s)

end Json.Library

instance : Coded Bool where
  toJson := .bool
  ofJson? lib := lib.flag

instance : Coded UInt8 where
  toJson n := .ofNat n.toNat
  ofJson? lib v := (lib.natural UInt8.size v).map UInt8.ofNat

instance : Coded UInt16 where
  toJson n := .ofNat n.toNat
  ofJson? lib v := (lib.natural UInt16.size v).map UInt16.ofNat

instance : Coded UInt32 where
  toJson n := .ofNat n.toNat
  ofJson? lib v := (lib.natural UInt32.size v).map UInt32.ofNat

instance : Coded UInt64 where
  toJson n := .ofNat n.toNat
  ofJson? lib v := (lib.natural UInt64.size v).map UInt64.ofNat

/-- Sizes are read up to 64 bits. -/
instance : Coded Nat where
  toJson n := .ofNat n
  ofJson? lib := lib.natural UInt64.size

instance : Coded String where
  toJson := .ofText
  ofJson? lib := lib.text

instance {α : Type} [Coded α] : Coded (List α) where
  toJson l := .array (l.map toJson)
  ofJson? lib v := (lib.items v).bind (·.mapM (Coded.ofJson? lib))

/-- A value that may be absent is null when it is. -/
instance {α : Type} [Coded α] : Coded (Option α) where
  toJson
    | none => .null
    | some a => toJson a
  ofJson? lib v := (lib.present v).elim (some none) fun v => (Coded.ofJson? lib v).map some

/-- A row of fixed length needs exactly its number of items. -/
instance {α : Type} [Coded α] {n : Nat} : Coded (Vector α n) where
  toJson v := .array (v.toList.map toJson)
  ofJson? lib j := do
    let l ← (lib.items j).bind (·.mapM (Coded.ofJson? lib))
    if h : l.length = n then some ⟨l.toArray, by simpa using h⟩ else none

end VirtualUsb
