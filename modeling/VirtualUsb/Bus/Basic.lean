import VirtualUsb.Bus.Roster
import VirtualUsb.Topology.Enumeration
import VirtualUsb.Transfer.Report

/-!
# The bus

The bus knows which devices stand on it and which of them are open, both by location, and owns the
transfers and the memory of the guest. A device lives as long as a list or a handle of a guest
refers to it (`Bus.refersTo`); `Bus.reap` discards it afterwards.
-/

namespace VirtualUsb

/-- A device at a location. -/
structure Attachment where
  location : Location
  key : DeviceKey
  deriving DecidableEq

/-- What a guest holds of a device that it opened. -/
structure Handle where
  key : DeviceKey
  location : Location
  busNumber : UInt8
  deriving DecidableEq, Inhabited

def Handle.describe (h : Handle) : String :=
  "UsbDeviceHandle \x7b location: " ++ h.location.describe ++
    ", bus_number: " ++ toString h.busNumber ++ " \x7d"

/-- A virtual bus. -/
structure Bus (σ : Type) where
  pool : TransferPool
  latency : UInt64
  memory : Memory
  agenda : Agenda := {}
  attached : List Attachment := []
  opened : List Attachment := []
  roster : Roster σ := {}
  /-- The devices of the handles that guests hold, one entry for each handle. -/
  held : List DeviceKey := []
  nextSession : UInt64 := 0
  lastLocation : UInt8 := 0

namespace Bus

variable {σ : Type} (host : Host σ)

def empty (poolSize : Nat) (latency : UInt64) (memory : Memory) : Bus σ where
  pool := .ofCapacity poolSize
  latency
  memory

def attachmentAt (l : List Attachment) (location : Location) : Option Attachment :=
  l.find? (·.location == location)

def withoutLocation (l : List Attachment) (location : Location) : List Attachment :=
  l.eraseP (·.location == location)

def isAttached (b : Bus σ) (location : Location) : Bool :=
  b.attached.any (·.location == location)

def isOpen (b : Bus σ) (location : Location) : Bool :=
  b.opened.any (·.location == location)

/-- The device standing at a location, with its key. -/
def knownDevice (b : Bus σ) (location : Location) : Option (DeviceKey × Device σ) :=
  (attachmentAt b.attached location).bind fun a => (b.roster.get? a.key).map (a.key, ·)

/-- The open device at the location of a handle, with its key. -/
def openedDevice (b : Bus σ) (h : Handle) : Option (DeviceKey × Device σ) :=
  (attachmentAt b.opened h.location).bind fun a => (b.roster.get? a.key).map (a.key, ·)

def withDevice (b : Bus σ) (key : DeviceKey) (d : Device σ) : Bus σ :=
  { b with roster := b.roster.set key d }

/-- Whether a list or a handle refers to a device. -/
def refersTo (b : Bus σ) (key : DeviceKey) : Bool :=
  b.attached.any (·.key == key) || b.opened.any (·.key == key) || b.held.contains key

/-- Discards a device to which nothing refers any more. -/
def reap (b : Bus σ) (key : DeviceKey) (s : σ) : Bus σ × σ :=
  if b.refersTo key then (b, s)
  else
    match b.roster.get? key with
    | none => (b, s)
    | some d => ({ b with roster := b.roster.retire key }, d.discard host s)

def summary (b : Bus σ) : TransferSummary :=
  ⟨b.pool.capacity, b.pool.busyCount, b.agenda.size⟩

end Bus

end VirtualUsb
