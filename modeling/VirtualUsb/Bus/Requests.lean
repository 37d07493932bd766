import VirtualUsb.Bus.Basic

/-!
# Requests to devices

What a guest asks of a device apart from transfers. Requests through a handle need the device to
be open; questions about a location only need a device to stand there.
-/

namespace VirtualUsb.Bus

variable {σ : Type} (host : Host σ)

/-- Whether the device of a handle can still be reached. -/
def checkConnected (b : Bus σ) (h : Handle) (s : σ) : Except UsbError Unit × σ :=
  match b.knownDevice h.location with
  | none => (.error .noDevice, s)
  | some (_, d) =>
    let (connected, s) := d.isConnected host s
    (if connected then .ok () else .error .noDevice, s)

/-- Claims an interface, after the descriptors of the device have been read. -/
def claim (b : Bus σ) (h : Handle) (interface : UInt8) (s : σ) : Except UsbError Unit × Bus σ × σ :=
  match b.openedDevice h with
  | none => (.error .noDevice, b, s)
  | some (key, d) =>
    let (d, s) := d.readDescriptors host s
    let (answer, d, s) := d.claim host interface s
    (answer, b.withDevice key d, s)

def release (b : Bus σ) (h : Handle) (interface : UInt8) (s : σ) :
    Except UsbError Unit × Bus σ × σ :=
  match b.openedDevice h with
  | none => (.error .noDevice, b, s)
  | some (key, d) =>
    let (answer, d, s) := d.release host interface s
    (answer, b.withDevice key d, s)

def getConfiguration (b : Bus σ) (h : Handle) (s : σ) : Except UsbError UInt8 × σ :=
  match b.openedDevice h with
  | none => (.error .noDevice, s)
  | some (_, d) =>
    match d.getConfiguration host 1 s with
    | (value :: _, s) => (.ok value, s)
    | ([], s) => (.error .io, s)

def setConfiguration (b : Bus σ) (h : Handle) (value : UInt8) (s : σ) :
    Except UsbError Unit × Bus σ × σ :=
  match b.openedDevice h with
  | none => (.error .noDevice, b, s)
  | some (key, d) =>
    let (ok, d, s) := d.setConfiguration host value s
    (if ok then .ok () else .error .io, b.withDevice key d, s)

def setAlternate (b : Bus σ) (h : Handle) (interface setting : UInt8) (s : σ) :
    Except UsbError Unit × σ :=
  match b.openedDevice h with
  | none => (.error .noDevice, s)
  | some (_, d) => d.setAlternate host interface setting s

/-- The device at a location, after its descriptors have been read. -/
def readAt (b : Bus σ) (location : Location) (s : σ) : Option (Device σ) × Bus σ × σ :=
  match b.knownDevice location with
  | none => (none, b, s)
  | some (key, d) =>
    let (d, s) := d.readDescriptors host s
    (some d, b.withDevice key d, s)

/-- A configuration with everything below it, as it stands on the wire. -/
def configDescriptor (b : Bus σ) (location : Location) (index : UInt8) (s : σ) :
    Except UsbError Bytes × Bus σ × σ :=
  match b.readAt host location s with
  | (none, b, s) => (.error .noDevice, b, s)
  | (some d, b, s) =>
    match d.state.descriptors.children[index.toNat]? with
    | none => (.error .notFound, b, s)
    | some c => (.ok c.toBytes, b, s)

def maxPacketSize (b : Bus σ) (location : Location) (endpoint : UInt8) (s : σ) :
    Except UsbError UInt16 × Bus σ × σ :=
  match b.readAt host location s with
  | (none, b, s) => (.error .noDevice, b, s)
  | (some d, b, s) =>
    match d.state.activeConfiguration.bind (·.findEndpoint endpoint) with
    | none => (.error .notFound, b, s)
    | some e => (.ok e.maxPacketSize, b, s)

/-- Deals with the device of a handle directly, whether it is on the bus or not. -/
def direct {α : Type} (b : Bus σ) (h : Handle) (f : Device σ → σ → α × Device σ × σ) (s : σ) :
    Option α × Bus σ × σ :=
  match b.roster.get? h.key with
  | none => (none, b, s)
  | some d =>
    let (answer, d, s) := f d s
    (some answer, b.withDevice h.key d, s)

end VirtualUsb.Bus
