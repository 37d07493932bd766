import VirtualUsb.Error
import VirtualUsb.Transfer.Isochronous
import VirtualUsb.Wire.Layout
import VirtualUsb.Wire.Setup

/-!
# The host's USB stack

`Host` lists the calls that the bus makes to the USB stack of its host. The stack lives in a world
`σ`, which every call may change. Transfers are only handed over by `Host.submit`; the stack
reports their ends later, when its events are handled.
-/

namespace VirtualUsb

/-- A transfer is named by its place in the pool. -/
structure TransferId where
  index : UInt32
  deriving DecidableEq, Repr, Inhabited

/-- A transfer name in hexadecimal. -/
def TransferId.describe (id : TransferId) : String :=
  "0x" ++ String.ofList (Nat.toDigits 16 id.index.toNat)

/-- The host's name of a device. -/
abbrev HostDeviceId := UInt64

/-- The host's name of an opened device. -/
abbrev HostHandle := UInt64

/-- A device plugged into the host. -/
structure HostDevice where
  id : HostDeviceId
  descriptor : DeviceDescriptor
  busNumber : UInt8 := 0
  address : UInt8 := 0
  deriving DecidableEq, Repr, Inhabited

inductive TransferKind
  | control
  | interrupt
  | isochronous
  deriving DecidableEq, Repr, Inhabited

/-- A transfer as the host sees it. The buffer of a control transfer opens with the setup packet;
the timeout counts microseconds, and none is zero. -/
structure HostTransfer where
  id : TransferId
  handle : HostHandle
  kind : TransferKind
  endpoint : UInt8
  buffer : Bytes
  packetLengths : List UInt16 := []
  timeout : Nat := 0
  deriving DecidableEq, Repr, Inhabited

/-- What the host reports of a transfer that ended. -/
structure Completion where
  id : TransferId
  kind : TransferKind
  status : TransferStatus
  actualLength : Nat
  buffer : Bytes
  packets : List PacketReport := []
  deriving DecidableEq, Repr, Inhabited

/-- The calls of a host's USB stack in a world `σ`. A stack that is busy does not stay so for
ever: `patience` bounds how often in a row it refuses a transfer for that reason. -/
structure Host (σ : Type) where
  deviceList : σ → Except HostError (List HostDevice) × σ
  reference : HostDeviceId → σ → σ
  unreference : HostDeviceId → σ → σ
  openDevice : HostDeviceId → σ → Except HostError HostHandle × σ
  closeHandle : HostHandle → σ → σ
  autoDetach : HostHandle → Bool → σ → Except HostError Unit × σ
  claim : HostHandle → UInt8 → σ → Except HostError Unit × σ
  release : HostHandle → UInt8 → σ → Except HostError Unit × σ
  configuration : HostHandle → σ → Except HostError UInt8 × σ
  setConfiguration : HostHandle → UInt8 → σ → Except HostError Unit × σ
  setAlternate : HostHandle → UInt8 → UInt8 → σ → Except HostError Unit × σ
  /-- A blocking control transfer: the number of bytes that the host claims to have moved, and
  what it wrote at the start of the buffer. -/
  controlSync : HostHandle → SetupPacket → Bytes → Nat → σ → Except HostError (Nat × Bytes) × σ
  submit : HostTransfer → σ → Except HostError Unit × σ
  /-- Lets the stack work for some microseconds: the transfers that ended, and how it went. -/
  handleEvents : Nat → σ → (List Completion × Except HostError Unit) × σ
  patience : σ → Nat
  patience_lt : ∀ t s, (submit t s).1 = .error .busy → patience (submit t s).2 < patience s

namespace Host

variable {σ : Type}

/-- A host without a USB stack: it has no devices, and nothing can be opened. -/
def none : Host σ where
  deviceList s := (.ok [], s)
  reference _ s := s
  unreference _ s := s
  openDevice _ s := (.error .noDevice, s)
  closeHandle _ s := s
  autoDetach _ _ s := (.ok (), s)
  claim _ _ s := (.error .noDevice, s)
  release _ _ s := (.error .noDevice, s)
  configuration _ s := (.error .noDevice, s)
  setConfiguration _ _ s := (.error .noDevice, s)
  setAlternate _ _ _ s := (.error .noDevice, s)
  controlSync _ _ _ _ s := (.error .noDevice, s)
  submit _ s := (.error .noDevice, s)
  handleEvents _ s := (([], .ok ()), s)
  patience _ := 0
  patience_lt := by simp

/-- Hands a transfer over, again and again while the host is busy. -/
def handOver (host : Host σ) (t : HostTransfer) (s : σ) : Except HostError Unit × σ :=
  match _h : (host.submit t s).1 with
  | .error .busy => host.handOver t (host.submit t s).2
  | _ => host.submit t s
termination_by host.patience s
decreasing_by exact host.patience_lt t s _h

end Host

end VirtualUsb
