/-!
# Speeds

A virtual bus has no port to ask for the speed of a device, so the speed is inferred from what the
device says of itself.
-/

namespace VirtualUsb

inductive Speed
  | unknown
  | low
  | full
  | high
  | super
  | superPlus
  deriving DecidableEq, Repr, Inhabited

namespace Speed

/-- The speed of a device with the given control packet size and version. A packet size of 9
stands for 512 bytes, which only the super speeds have. -/
def infer (maxPacketSize : UInt8) (usbVersion : UInt16) : Speed :=
  if maxPacketSize = 9 then
    if 0x0310 ≤ usbVersion then .superPlus else .super
  else if 0x0200 ≤ usbVersion then .high
  else if 8 < maxPacketSize then .full
  else .low

def name : Speed → String
  | .unknown => "Unknown"
  | .low => "Low"
  | .full => "Full"
  | .high => "High"
  | .super => "Super"
  | .superPlus => "SuperPlus"

/-- All speeds, the slowest first. -/
def all : List Speed := [.unknown, .low, .full, .high, .super, .superPlus]

end Speed

end VirtualUsb
