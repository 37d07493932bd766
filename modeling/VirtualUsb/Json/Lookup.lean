import VirtualUsb.Json.Coded
import VirtualUsb.Json.Standard

/-!
# Looking into JSON values

Reading single fields of an object whose shape is not fixed. A null counts as a field that is left
out.
-/

namespace VirtualUsb.Json

/-- The first value under a key. -/
def get? (j : Json) (key : String) : Option Json :=
  match j with
  | object members => (members.find? (·.1 == some key)).map (·.2)
  | _ => none

/-- The value under a key, if it is not null. -/
def field? (j : Json) (key : String) : Option Json :=
  match j.get? key with
  | some null => none
  | v => v

/-- Whether there is a value under a key that is not null. -/
def has (j : Json) (key : String) : Bool := (j.field? key).isSome

def asNat? : Json → Option Nat
  | number (.natural n) => some n
  | _ => none

/-- The items of an array, and of anything else none. -/
def asItems : Json → List Json
  | array items => items
  | _ => []

/-- The members of an object, and of anything else none. -/
def asMembers : Json → List (String × Json)
  | object members => members.filterMap fun (k, v) => k.map (·, v)
  | _ => []

def natAt (j : Json) (key : String) (default : Nat) : Nat :=
  ((j.field? key).bind asNat?).getD default

def textAt (j : Json) (key : String) : String := ((j.field? key).bind asText?).getD ""

def itemsAt (j : Json) (key : String) : List Json := ((j.field? key).map asItems).getD []

def membersAt (j : Json) (key : String) : List (String × Json) :=
  ((j.field? key).map asMembers).getD []

def flagAt (j : Json) (key : String) : Bool :=
  match j.get? key with
  | some (bool b) => b
  | _ => false

def valueAt {α : Type} [Coded α] (j : Json) (key : String) (default : α) : α :=
  ((j.field? key).bind (Coded.ofJson? .standard)).getD default

end VirtualUsb.Json
