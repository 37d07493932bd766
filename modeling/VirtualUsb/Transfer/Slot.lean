import VirtualUsb.Host.Transport
import VirtualUsb.Topology.Location

/-!
# Transfer slots

A slot holds one transfer of a guest from the moment it is claimed until it is claimed again. A
busy slot is released by exactly one of: an end on the spot (`Transfer.finish`), a report of the
host (`Transfer.deliver`), or the end that an emulated device scheduled (`Transfer.expire`).
-/

namespace VirtualUsb

/-- An end that an emulated device has set for a transfer. -/
structure ScheduledEnd where
  dueAt : UInt64
  status : TransferStatus
  count : UInt32
  deriving DecidableEq, Repr, Inhabited

/-- A byte count in 32 bits, at most the largest. -/
def clampCount (n : Nat) : UInt32 := UInt32.ofNat (min n 4294967295)

theorem toNat_clampCount (n : Nat) : (clampCount n).toNat = min n 4294967295 := by
  simp only [clampCount, UInt32.toNat_ofNat']
  omega

namespace Completion

/-- The data that a report carries for the guest: what follows the setup packet of a control
transfer, and the whole buffer of the others. Only isochronous data is not cut to the reported
length, as its packets are spread over the buffer. -/
def data (c : Completion) : Bytes :=
  match c.kind with
  | .control => (c.buffer.drop SetupPacket.wireSize).take c.actualLength
  | .interrupt => c.buffer.take c.actualLength
  | .isochronous => c.buffer

end Completion

/-- One slot of the transfer pool. The destinations say where the data of an IN transfer goes when
the host reports its end. -/
structure Transfer where
  id : TransferId
  busy : Bool := false
  status : TransferStatus := .completed
  count : UInt32 := 0
  controlDestination : Option GuestBuffer := none
  endpointDestination : Option GuestBuffer := none
  iso : IsoRequest := {}
  scheduled : Option ScheduledEnd := none
  owner : Option Location := none
  deriving DecidableEq, Repr

instance : Inhabited Transfer := ⟨{ id := default }⟩

namespace Transfer

def isScheduled (t : Transfer) : Bool := t.scheduled.isSome

/-- The slot claimed for a new transfer, with nothing left of the last one. -/
def claimed (t : Transfer) : Transfer := { id := t.id, busy := true }

def finish (t : Transfer) (status : TransferStatus) (count : Nat) : Transfer :=
  { t with
    status
    count := clampCount count
    controlDestination := none
    endpointDestination := none
    scheduled := none
    busy := false }

def expire (t : Transfer) (e : ScheduledEnd) : Transfer :=
  { t with status := e.status, count := e.count, scheduled := none, busy := false }

/-- Where a report of the given kind puts its data. -/
def destination (t : Transfer) : TransferKind → Option GuestBuffer
  | .control => t.controlDestination
  | .interrupt | .isochronous => t.endpointDestination

/-- The transfer without the destination for a kind. -/
def clearDestination (t : Transfer) : TransferKind → Transfer
  | .control => { t with controlDestination := none }
  | .interrupt | .isochronous => { t with endpointDestination := none }

/-- The transfer ended as the host reports. -/
def deliver (t : Transfer) (c : Completion) : Transfer :=
  { t.clearDestination c.kind with
    status := c.status
    count := clampCount c.actualLength
    iso := t.iso.withReports c.packets
    busy := false }

/-- Guest memory after a report of the host has been applied to a transfer. -/
def deliverData (t : Transfer) (c : Completion) (m : Memory) : Memory :=
  match t.destination c.kind with
  | some buffer => buffer.writeTo m c.data
  | none => m

end Transfer

end VirtualUsb
