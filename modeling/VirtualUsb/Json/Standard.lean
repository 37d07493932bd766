import VirtualUsb.Json.Library
import VirtualUsb.Json.Printer
import VirtualUsb.Json.Reader

/-!
# The library that comes along

The reader and the printer of this project as a library, with ways to take values apart. A record
is an object, or an array of its fields in order; a choice is the name of one of its values, also
as the only key of an object. Whole numbers must be written with digits alone.
-/

namespace VirtualUsb.Json

def asFlag? : Json → Option Bool
  | bool b => some b
  | _ => none

def asNatBelow? (bound : Nat) : Json → Option Nat
  | number (.natural n) => if n < bound then some n else none
  | _ => none

def asText? : Json → Option String
  | string s => s
  | _ => none

def asArray? : Json → Option (List Json)
  | array items => some items
  | _ => none

/-- Any value but null. -/
def present? : Json → Option Json
  | null => none
  | v => some v

/-- The name that a value is, or the only key of an object with nothing else. -/
def variant? : Json → Option String
  | string s => s
  | object [(s, null)] => s
  | _ => none

/-- The values under a key. -/
def valuesOf (key : String) (members : List (Option String × Json)) : List Json :=
  (members.filter (·.1 == some key)).map (·.2)

/-- The fields of a record in the order of their keys, those that are left out as `none`. No key
may stand twice; unknown keys are passed over. -/
def fields? (keys : List String) : Json → Option (List (Option Json))
  | object members =>
    if members.any (·.1.isNone) then none
    else keys.mapM fun key =>
      match valuesOf key members with
      | [] => some none
      | [v] => some (some v)
      | _ => none
  | array items =>
    if keys.length < items.length then none
    else some (items.map some ++ List.replicate (keys.length - items.length) none)
  | _ => none

/-- The library with the reader and the printer of this project. -/
def Library.standard : Library where
  read := read?
  write := render
  flag := asFlag?
  natural := asNatBelow?
  text := asText?
  items := asArray?
  present := present?
  variant := variant?
  fields := fields?

end VirtualUsb.Json
