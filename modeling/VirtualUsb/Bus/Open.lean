import VirtualUsb.Bus.Enumerate

/-!
# Opening

A guest opens a device by a record of some enumeration. The bus number of an old record may have
come to another device since, so it only counts if the location agrees.
-/

namespace VirtualUsb.Bus

variable {σ : Type} (host : Host σ)

/-- The attachment at a bus number, counted from one. -/
def atBusNumber (b : Bus σ) (n : UInt8) : Option Attachment :=
  if n = 0 then none else b.attached[n.toNat - 1]?

/-- The attachment that a record means. -/
def resolve (b : Bus σ) (r : DeviceRecord) : Option Attachment :=
  ((b.atBusNumber r.busNumber).filter (·.location == r.location)).or
    (attachmentAt b.attached r.location)

def noteOpen (b : Bus σ) (a : Attachment) : Bus σ :=
  if b.isOpen a.location then b else { b with opened := b.opened ++ [a] }

def openRecord (b : Bus σ) (r : DeviceRecord) (s : σ) : Except UsbError Handle × Bus σ × σ :=
  match b.resolve r with
  | none => (.error .noDevice, b, s)
  | some a =>
    match b.roster.get? a.key with
    | none => (.error .noDevice, b, s)
    | some d =>
      match d.openForUse host s with
      | (.error e, d, s) => (.error e, b.withDevice a.key d, s)
      | (.ok (), d, s) =>
        let b := (b.withDevice a.key d).noteOpen a
        (.ok ⟨a.key, a.location, r.busNumber⟩, { b with held := b.held ++ [a.key] }, s)

/-- Enumerates the bus and opens the first device with the given vendor and product. -/
def openByIds (b : Bus σ) (vendorId productId : UInt16) (s : σ) :
    Except UsbError Handle × Bus σ × σ :=
  let (e, b, s) := b.enumerate host s
  match e.findByIds vendorId productId with
  | none => (.error .noDevice, b, s)
  | some r => b.openRecord host r s

end VirtualUsb.Bus
