/-!
# JSON values

A JSON value as it is read: objects keep the order of their members and may repeat a key. A string
with a surrogate that stands alone has no text, but it is a string (`Json.string none`).
-/

namespace VirtualUsb

/-- A number in a JSON text: a natural number written with digits alone, or any other, by its
spelling. -/
inductive Numeral
  | natural (n : Nat)
  | other (spelling : String)
  deriving DecidableEq, Repr, Inhabited

inductive Json
  | null
  | bool (value : Bool)
  | number (value : Numeral)
  | string (text : Option String)
  | array (items : List Json)
  | object (members : List (Option String × Json))
  deriving Inhabited

namespace Json

def ofNat (n : Nat) : Json := number (.natural n)

def ofText (s : String) : Json := string (some s)

def record (members : List (String × Json)) : Json :=
  object (members.map fun (k, v) => (some k, v))

end Json

end VirtualUsb
