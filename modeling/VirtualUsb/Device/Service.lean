import VirtualUsb.Time.Clock
import VirtualUsb.Transfer.Agenda

/-!
# Serving a transfer

While a device serves a transfer it may read and write guest memory, end the transfer on the spot,
schedule its end, or prepare it for the host. Nothing reaches the host during the service: what is
prepared is handed over afterwards.
-/

namespace VirtualUsb

/-- The largest data stage of a control or interrupt transfer. -/
def maxTransferLength : Nat := 65535

/-- A transfer in service, with all that the device may touch. -/
structure Service where
  transfer : Transfer
  memory : Memory
  agenda : Agenda
  now : UInt64
  latency : UInt64
  submission : Option HostTransfer := none

namespace Service

def id (v : Service) : TransferId := v.transfer.id

def readGuest (v : Service) (b : GuestBuffer) : Bytes := b.readFrom v.memory

/-- Stores data in a guest buffer, as far as it fits. -/
def writeGuest (v : Service) (b : GuestBuffer) (data : Bytes) : Service :=
  { v with memory := b.writeTo v.memory data }

def poke (v : Service) (addr : UInt64) (data : Bytes) : Service :=
  { v with memory := v.memory.write addr data }

/-- Schedules the end of the transfer, one latency from now. -/
def schedule (v : Service) (status : TransferStatus) (count : Nat) : Service :=
  { v with
    transfer := { v.transfer with
      scheduled := some ⟨Time.after v.now v.latency.toNat, status, clampCount count⟩ }
    agenda := v.agenda.push v.transfer.id }

def finish (v : Service) (status : TransferStatus) (count : Nat) : Service :=
  { v with transfer := v.transfer.finish status count }

/-- Prepares a transfer for the host. -/
def submit (v : Service) (t : HostTransfer) : Service := { v with submission := some t }

/-- The data stage as the device first sees it: zeros if the device is to fill it, and the guest's
bytes if they flow to the device. -/
def dataStage (v : Service) (isIn : Bool) (b : GuestBuffer) : Bytes :=
  if isIn then List.replicate b.len 0 else v.readGuest b

@[simp] theorem length_dataStage (v : Service) (isIn : Bool) (b : GuestBuffer) :
    (v.dataStage isIn b).length = b.len := by
  cases isIn <;> simp [dataStage, readGuest]

end Service

end VirtualUsb
