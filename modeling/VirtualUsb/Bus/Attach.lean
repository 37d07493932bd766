import VirtualUsb.Bus.Basic

/-!
# Attaching and detaching

Devices come to the bus at a location and leave it again. Attaching at an occupied location puts
off the device that stood there, and leaving the bus closes a device that is open.
-/

namespace VirtualUsb.Bus

variable {σ : Type} (host : Host σ)

/-- The next location in turn. Locations come round again after 256 of them. -/
def newLocation (b : Bus σ) : Location × Bus σ :=
  (.ofIndex (b.lastLocation + 1), { b with lastLocation := b.lastLocation + 1 })

def closeDevice (b : Bus σ) (key : DeviceKey) (s : σ) : Bus σ × σ :=
  match b.roster.get? key with
  | none => (b, s)
  | some d =>
    let (d, s) := d.close host s
    (b.withDevice key d, s)

/-- Closes the device at a location and takes it off the list of open devices. -/
def closeAt (b : Bus σ) (location : Location) (s : σ) : Bus σ × σ :=
  match attachmentAt b.opened location with
  | none => (b, s)
  | some a =>
    let b := { b with opened := withoutLocation b.opened location }
    let (b, s) := b.closeDevice host a.key s
    b.reap host a.key s

def removeAt (b : Bus σ) (location : Location) (s : σ) : Bus σ × σ :=
  match attachmentAt b.attached location with
  | none => (b, s)
  | some a => { b with attached := withoutLocation b.attached location }.reap host a.key s

/-- Closes the device at a location and, if asked to, takes it off the bus. -/
def disconnectAt (b : Bus σ) (location : Location) (remove : Bool) (s : σ) : Bus σ × σ :=
  let (b, s) := b.closeAt host location s
  if remove then b.removeAt host location s else (b, s)

/-- Closes the device of a handle and, if asked to, takes it off the bus. -/
def disconnect (b : Bus σ) (h : Handle) (remove : Bool) (s : σ) : Bus σ × σ :=
  b.disconnectAt host h.location remove s

def close (b : Bus σ) (h : Handle) (s : σ) : Bus σ × σ := b.disconnect host h false s

/-- Puts a device of the roster on the bus, in place of the one that stood at its location. -/
def place (b : Bus σ) (key : DeviceKey) (location : Location) (s : σ) : Bus σ × σ :=
  let (b, s) := if b.isAttached location then b.disconnectAt host location true s else (b, s)
  ({ b with attached := b.attached ++ [⟨location, key⟩] }, s)

/-- Puts a new device on the bus, at the location that its state names. -/
def attach (b : Bus σ) (d : Device σ) (s : σ) : DeviceKey × Bus σ × σ :=
  (b.roster.nextKey,
    { b with roster := b.roster.enroll d }.place host b.roster.nextKey d.state.location s)

def reattach (b : Bus σ) (h : Handle) (s : σ) : Option Location × Bus σ × σ :=
  match b.roster.get? h.key with
  | none => (none, b, s)
  | some d => (some d.state.location, b.place host h.key d.state.location s)

def letGo (b : Bus σ) (h : Handle) (s : σ) : Bus σ × σ :=
  { b with held := b.held.erase h.key }.reap host h.key s

/-- Closes all open devices, then takes all devices off the bus, both in order. -/
def clear (b : Bus σ) (s : σ) : Bus σ × σ :=
  let closed := b.opened.foldl (fun (b, s) a => b.closeAt host a.location s) (b, s)
  b.attached.foldl (fun (b, s) a => b.removeAt host a.location s) closed

end VirtualUsb.Bus
