import VirtualUsb.Wire.Setup

/-!
# Standard requests

The control requests that every device of this library answers by itself. A request is told by its
direction, class, recipient and number together; all others are left to the device.
-/

namespace VirtualUsb

inductive StandardRequest
  | setConfiguration (value : UInt8)
  | setInterface (number : UInt8)
  | getStatus
  | getDescriptor (kind index : UInt8)
  | getConfiguration
  deriving DecidableEq, Repr

namespace StandardRequest

def getDescriptorCode : UInt8 := 0x06

def ofSetup (p : SetupPacket) : Option StandardRequest :=
  match p.direction, p.requestClass, p.recipient, p.request with
  | .hostToDevice, .standard, .device, 0x09 => some (.setConfiguration p.valueLow)
  | .hostToDevice, .standard, .interface, 0x0B => some (.setInterface (Bytes.low p.index))
  | .deviceToHost, .standard, .device, 0x00 => some .getStatus
  | .deviceToHost, .standard, .device, 0x06 => some (.getDescriptor p.valueHigh p.valueLow)
  | .deviceToHost, .standard, .device, 0x08 => some .getConfiguration
  | _, _, _, _ => none

/-- The setup packet that asks a device for `length` bytes of a descriptor. -/
def askDescriptor (kind index : UInt8) (length : UInt16) : SetupPacket where
  requestType := 0x80
  request := getDescriptorCode
  value := Bytes.word index kind
  length

end StandardRequest

end VirtualUsb
