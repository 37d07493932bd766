/-!
# Bus locations

A location names a place on the bus for as long as a device stands there: seven bytes without
further meaning.
-/

namespace VirtualUsb

/-- A place on the bus. -/
structure Location where
  bytes : Vector UInt8 7
  deriving DecidableEq, Repr

namespace Location

/-- Place number `n`, which stands in the first byte. -/
def ofIndex (n : UInt8) : Location := ⟨#v[n, 0, 0, 0, 0, 0, 0]⟩

instance : Inhabited Location := ⟨ofIndex 0⟩

/-- A location as text, its bytes in decimal with dots between them. -/
def describe (l : Location) : String :=
  "BusLocation(" ++ ".".intercalate (l.bytes.toList.map toString) ++ ")"

end Location

end VirtualUsb
