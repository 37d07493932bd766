import VirtualUsb.Bus.Basic

/-!
# Enumerating

Enumerating reads the descriptors of every device and makes up a record for it. Session numbers
run on over all enumerations, and address and port follow the session. Bus numbers are one byte,
so at most 255 devices get a record.
-/

namespace VirtualUsb.Bus

variable {σ : Type} (host : Host σ)

/-- The most records of one enumeration. -/
def maxRecords : Nat := 255

/-- Reads the descriptors of a device and tells its own descriptor. -/
def describeDevice (b : Bus σ) (key : DeviceKey) (s : σ) : DeviceDescriptor × Bus σ × σ :=
  match b.roster.get? key with
  | none => ({}, b, s)
  | some d =>
    let (d, s) := d.readDescriptors host s
    (d.state.deviceDescriptor, b.withDevice key d, s)

def recordOf (session : UInt64) (busNumber : Nat) (location : Location) (d : DeviceDescriptor) :
    DeviceRecord where
  sessionId := session
  busNumber := UInt8.ofNat busNumber
  address := session.toUInt8
  port := session.toUInt8
  speed := .infer d.maxPacketSize d.usbVersion
  descriptor := d
  location

/-- Makes up records for attachments, the first of which has bus number `n`. -/
def enumerateFrom (n : Nat) : List Attachment → Bus σ → σ → List DeviceRecord × Bus σ × σ
  | [], b, s => ([], b, s)
  | a :: rest, b, s =>
    let session := b.nextSession
    let (d, b, s) := { b with nextSession := session + 1 }.describeDevice host a.key s
    let (records, b, s) := enumerateFrom (n + 1) rest b s
    (recordOf session n a.location d :: records, b, s)

/-- A snapshot of the bus. -/
def enumerate (b : Bus σ) (s : σ) : Enumeration × Bus σ × σ :=
  let (records, b, s) := enumerateFrom host 1 (b.attached.take maxRecords) b s
  (⟨records⟩, b, s)

end VirtualUsb.Bus
