import VirtualUsb.Bytes

/-!
# Setup packets

Every control transfer opens with an eight-byte setup packet. `SetupPacket.toBytes` and
`SetupPacket.ofBytes` are its wire form; words are little-endian.
-/

namespace VirtualUsb

/-- The header of a control transfer. -/
structure SetupPacket where
  requestType : UInt8 := 0
  request : UInt8 := 0
  value : UInt16 := 0
  index : UInt16 := 0
  length : UInt16 := 0
  deriving DecidableEq, Repr, Inhabited

/-- The way the data stage of a control transfer flows. -/
inductive Direction
  | hostToDevice
  | deviceToHost
  deriving DecidableEq, Repr

/-- Who defines a control request. -/
inductive RequestClass
  | standard
  | byClass
  | vendor
  | reserved
  deriving DecidableEq, Repr

/-- The part of a device that a control request is for. -/
inductive Recipient
  | device
  | interface
  | endpoint
  | other
  | reserved
  deriving DecidableEq, Repr

def Direction.name : Direction → String
  | .hostToDevice => "HostToDevice"
  | .deviceToHost => "DeviceToHost"

def RequestClass.name : RequestClass → String
  | .standard => "Standard"
  | .byClass => "Class"
  | .vendor => "Vendor"
  | .reserved => "Reserved"

def Recipient.name : Recipient → String
  | .device => "Device"
  | .interface => "Interface"
  | .endpoint => "Endpoint"
  | .other => "Other"
  | .reserved => "Reserved"

/-- Whether an endpoint address names an IN endpoint, which sends data to the host. -/
def isInEndpoint (endpoint : UInt8) : Bool := endpoint &&& 0x80 != 0

namespace SetupPacket

def wireSize : Nat := 8

/-- Bit 7 of the request type gives the direction. -/
def direction (p : SetupPacket) : Direction :=
  if p.requestType &&& 0x80 != 0 then .deviceToHost else .hostToDevice

/-- Bits 5 and 6 of the request type give the class of the request. -/
def requestClass (p : SetupPacket) : RequestClass :=
  match (p.requestType >>> 5) &&& 0x03 with
  | 0 => .standard
  | 1 => .byClass
  | 2 => .vendor
  | _ => .reserved

/-- Bits 0 to 4 of the request type give the recipient. -/
def recipient (p : SetupPacket) : Recipient :=
  match p.requestType &&& 0x1f with
  | 0 => .device
  | 1 => .interface
  | 2 => .endpoint
  | 3 => .other
  | _ => .reserved

def isIn (p : SetupPacket) : Bool := p.direction == .deviceToHost

/-- The high byte of the value, a descriptor type in GET_DESCRIPTOR. -/
def valueHigh (p : SetupPacket) : UInt8 := Bytes.high p.value

/-- The low byte of the value, a descriptor index in GET_DESCRIPTOR. -/
def valueLow (p : SetupPacket) : UInt8 := Bytes.low p.value

def toBytes (p : SetupPacket) : Bytes :=
  p.requestType :: p.request ::
    (Bytes.ofWord p.value ++ Bytes.ofWord p.index ++ Bytes.ofWord p.length)

/-- The packet with the given wire form, which has eight bytes. -/
def ofBytes : Bytes → Option SetupPacket
  | [t, r, v₀, v₁, i₀, i₁, l₀, l₁] =>
    some ⟨t, r, Bytes.word v₀ v₁, Bytes.word i₀ i₁, Bytes.word l₀ l₁⟩
  | _ => none

@[simp] theorem length_toBytes (p : SetupPacket) : p.toBytes.length = wireSize := rfl

@[simp] theorem ofBytes_toBytes (p : SetupPacket) : ofBytes p.toBytes = some p := by
  simp [toBytes, Bytes.ofWord, ofBytes]

end SetupPacket

end VirtualUsb
