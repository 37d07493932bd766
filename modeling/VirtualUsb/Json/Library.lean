import VirtualUsb.Json.Basic

/-!
# JSON libraries

Texts are read and written by a library, which also takes values apart. Here is what is asked of one
(`Json.Library`), and what is relied on: that it keeps to the JSON standard where a value is `Plain`
(`Json.Library.Faithful`). Nothing is said of how it treats anything else.
-/

namespace VirtualUsb.Json

/-- The functions of a JSON library. Those that take a value apart fail if it is of another form. -/
structure Library where
  /-- The value in a text. -/
  read : String → Option Json
  /-- A text of a value. -/
  write : Json → String
  /-- The truth value that a value is. -/
  flag : Json → Option Bool
  /-- The natural number below a bound that a value is. -/
  natural : Nat → Json → Option Nat
  /-- The text that a value is. -/
  text : Json → Option String
  /-- The items of an array. -/
  items : Json → Option (List Json)
  /-- The value itself, unless it says that there is none. -/
  present : Json → Option Json
  /-- The name of a choice. -/
  variant : Json → Option String
  /-- The fields of a record in the order of their keys, those that are left out as `none`. -/
  fields : List String → Json → Option (List (Option Json))

/-- Whether a value nests arrays and objects at most so deep, its numbers are natural and have 64
bits, its strings have a text, and none of its objects repeats a key. -/
inductive Plain : Nat → Json → Prop
  | null {depth : Nat} : Plain depth null
  | bool {depth : Nat} (b : Bool) : Plain depth (bool b)
  | natural {depth n : Nat} (h : n < UInt64.size) : Plain depth (ofNat n)
  | text {depth : Nat} (s : String) : Plain depth (ofText s)
  | array {depth : Nat} {items : List Json} (h : ∀ v ∈ items, Plain depth v) :
    Plain (depth + 1) (array items)
  | record {depth : Nat} {members : List (String × Json)} (hkeys : (members.map (·.1)).Nodup)
      (h : ∀ m ∈ members, Plain depth m.2) : Plain (depth + 1) (record members)

namespace Library

/-- How deep a text may nest for a library to read it. -/
def maxDepth : Nat := 127

/-- What is relied on of a library: plain values are read back from what is written of them, each
part of a value is taken for what it is, null is what is absent, and the fields of an object are
found by their keys wherever some of them are left out. -/
structure Faithful (lib : Library) : Prop where
  read_write : ∀ {v : Json}, v.Plain maxDepth → lib.read (lib.write v) = some v
  flag_bool : ∀ b, lib.flag (bool b) = some b
  natural_ofNat : ∀ {n bound : Nat}, n < bound → bound ≤ UInt64.size →
    lib.natural bound (ofNat n) = some n
  text_ofText : ∀ s, lib.text (ofText s) = some s
  items_array : ∀ items, lib.items (array items) = some items
  present_null : lib.present null = none
  present_of_ne_null : ∀ {v : Json}, v ≠ null → lib.present v = some v
  variant_ofText : ∀ s, lib.variant (ofText s) = some s
  fields_record : ∀ {keys : List String} {members : List (String × Json)}, keys.Nodup →
    (members.map (·.1)).Sublist keys →
      lib.fields keys (record members) = some (keys.map fun key => members.lookup key)

end Library

end VirtualUsb.Json
