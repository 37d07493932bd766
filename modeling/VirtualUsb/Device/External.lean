import VirtualUsb.Device.Service
import VirtualUsb.Device.State

/-!
# External devices

A device that a caller of the library brings along. How it serves a transfer is a `Procedure`: a
course of steps, each chosen from the answers to those before, that can do no more to the transfer
than a `Service` allows.
-/

namespace VirtualUsb

/-- A course of steps in the service of a transfer. -/
inductive Procedure (σ : Type) where
  | done
  | look (next : σ → Procedure σ)
  | change (world : σ) (next : Procedure σ)
  | inspect (next : TransferId → IsoRequest → Procedure σ)
  | read (buffer : GuestBuffer) (next : Bytes → Procedure σ)
  | write (buffer : GuestBuffer) (data : Bytes) (next : Nat → Procedure σ)
  | poke (addr : UInt64) (data : Bytes) (next : Procedure σ)
  | schedule (status : TransferStatus) (count : Nat) (next : Procedure σ)
  | finish (status : TransferStatus) (count : Nat) (next : Procedure σ)
  | submit (transfer : HostTransfer) (next : Procedure σ)

namespace Procedure

variable {σ : Type}

/-- Follows a procedure to its end. -/
def run (v : Service) (s : σ) : Procedure σ → Service × σ
  | done => (v, s)
  | look next => (next s).run v s
  | change s next => next.run v s
  | inspect next => (next v.id v.transfer.iso).run v s
  | read b next => (next (v.readGuest b)).run v s
  | write b data next => (next (b.room data)).run (v.writeGuest b data) s
  | poke addr data next => next.run (v.poke addr data) s
  | schedule status count next => next.run (v.schedule status count) s
  | finish status count next => next.run (v.finish status count) s
  | submit t next => next.run (v.submit t) s

/-- The procedure that changes the world and goes on. -/
def alter (f : σ → σ) (next : Procedure σ) : Procedure σ := look fun s => change (f s) next

end Procedure

/-- A device that a caller brings along. -/
structure External (σ : Type) where
  state : DeviceState
  openForUse : σ → Except UsbError Unit × σ
  control : SetupPacket → GuestBuffer → Procedure σ
  interrupt : UInt8 → GuestBuffer → Procedure σ
  isochronous : Procedure σ

end VirtualUsb
