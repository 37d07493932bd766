import VirtualUsb.Topology.Location
import VirtualUsb.Topology.Speed
import VirtualUsb.Wire.Layout

/-!
# Enumerations

An enumeration is a snapshot of the bus: one record for each device that stood on it. Bus number,
address and port are made up for the guest, as a virtual bus has none.
-/

namespace VirtualUsb

/-- What an enumeration says of one device. -/
structure DeviceRecord where
  sessionId : UInt64
  busNumber : UInt8
  address : UInt8
  port : UInt8
  speed : Speed
  descriptor : DeviceDescriptor
  location : Location
  deriving DecidableEq, Repr, Inhabited

/-- The records of one enumeration, in the order of the bus. -/
structure Enumeration where
  records : List DeviceRecord := []
  deriving DecidableEq, Repr, Inhabited

namespace Enumeration

def size (e : Enumeration) : Nat := e.records.length

def isEmpty (e : Enumeration) : Bool := e.records.isEmpty

/-- The record at an index, counted from zero. -/
def get? (e : Enumeration) (i : Nat) : Option DeviceRecord := e.records[i]?

def findByIds (e : Enumeration) (vendorId productId : UInt16) : Option DeviceRecord :=
  e.records.find? fun r =>
    r.descriptor.vendorId == vendorId && r.descriptor.productId == productId

end Enumeration

end VirtualUsb
