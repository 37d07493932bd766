import VirtualUsb.Text.Utf16
import VirtualUsb.Wire.Descriptor

/-!
# String descriptors

A string descriptor holds text as little-endian UTF-16. Its length byte leaves room for 126 whole
units; what is longer is cut. The descriptor with index zero lists the languages instead.
-/

namespace VirtualUsb.StringDescriptor

/-- The most units of one descriptor. -/
def maxUnits : Nat := 126

/-- English as spoken in the United States. -/
def englishUS : UInt16 := 0x0409

def ofUnits (units : List UInt16) : Bytes :=
  UInt8.ofNat (2 + 2 * units.length) :: DescriptorKind.string :: units.flatMap Bytes.ofWord

/-- The descriptor of a text, cut to the units that fit. -/
def ofText (text : String) : Bytes := ofUnits ((Utf16.encode text.toList).take maxUnits)

/-- The descriptor that lists the one language of the strings. -/
def languages : Bytes := ofUnits [englishUS]

end VirtualUsb.StringDescriptor
