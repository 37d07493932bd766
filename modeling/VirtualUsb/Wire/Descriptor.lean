import VirtualUsb.Bytes

/-!
# Descriptors

A descriptor is a length byte, a kind byte and a payload. The length byte counts the whole
descriptor, so a payload has at most 253 bytes and the length need not be stored.
-/

namespace VirtualUsb

namespace DescriptorKind

/-- The kind of the descriptor that says what a device is. -/
def device : UInt8 := 0x01

def configuration : UInt8 := 0x02

def string : UInt8 := 0x03

def interface : UInt8 := 0x04

def endpoint : UInt8 := 0x05

/-- The kind of the class descriptor of a human interface device. -/
def hid : UInt8 := 0x21

/-- The kind of a HID report descriptor, announced by a HID descriptor. -/
def hidReport : UInt8 := 0x22

end DescriptorKind

structure Descriptor where
  kind : UInt8
  payload : Bytes
  payload_le : payload.length ≤ 253
  deriving DecidableEq, Repr

namespace Descriptor

/-- The largest payload of a descriptor. -/
def maxPayload : Nat := 253

def size (d : Descriptor) : Nat := d.payload.length + 2

def length (d : Descriptor) : UInt8 := UInt8.ofNat d.size

/-- The descriptor with a payload, cut to the largest size. -/
def ofPayload (kind : UInt8) (payload : Bytes) : Descriptor :=
  ⟨kind, payload.take maxPayload, by simp only [List.length_take, maxPayload]; omega⟩

def toBytes (d : Descriptor) : Bytes := d.length :: d.kind :: d.payload

/-- The descriptor at the start of some bytes. Its length byte is believed: a payload that ends
early is filled up with zeros. There is none without a whole header or with a length below two. -/
def ofBytes : Bytes → Option Descriptor
  | length :: kind :: rest =>
    if length.toNat < 2 then none
    else some (ofPayload kind (Bytes.overlay (List.replicate (length.toNat - 2) 0) rest))
  | _ => none

theorem size_le (d : Descriptor) : d.size ≤ 255 := by
  have := d.payload_le
  simp only [size]
  omega

theorem toNat_length (d : Descriptor) : d.length.toNat = d.size := by
  have := d.size_le
  simp only [length, UInt8.toNat_ofNat']
  omega

@[simp] theorem length_toBytes (d : Descriptor) : d.toBytes.length = d.size := rfl

end Descriptor

end VirtualUsb
