import VirtualUsb.Device.InterfaceSet
import VirtualUsb.Device.Service
import VirtualUsb.Device.State
import VirtualUsb.Wire.Configuration
import VirtualUsb.Wire.StandardRequest

/-!
# Passthrough devices

A passthrough device stands for a device of the host. It holds a host handle while it is open, and
every transfer is prepared for the host and ends when the host says so. The host is asked directly
only for handles, interfaces and configurations.
-/

namespace VirtualUsb

/-- A device of the host on the virtual bus. -/
structure Passthrough where
  state : DeviceState
  device : HostDevice
  handle : Option HostHandle := none
  claimed : InterfaceSet := .empty
  /-- Whether every configuration has been read. -/
  complete : Bool := false
  /-- The time that a read of a configuration may take, in microseconds; zero is no limit. -/
  readTimeout : Nat := 0

namespace Passthrough

variable {σ : Type} (host : Host σ)

/-- The interface claimed when a device is opened. -/
def defaultInterface : UInt8 := 0

/-- The number of bytes asked for when a configuration is read. -/
def readSize : Nat := 1000

/-- The device standing for a device of the host, which is kept referenced from now on. -/
def attach (device : HostDevice) (location : Location) (readTimeout : Nat) (s : σ) :
    Passthrough × σ :=
  ({ state := { location, descriptors := .ofLayout device.descriptor }, device, readTimeout },
    host.reference device.id s)

/-- Opens the device on the host and claims its default interface. If that fails, nothing stays
open. A host that cannot detach its own drivers is no obstacle. -/
def openForUse (d : Passthrough) (s : σ) : Except UsbError Unit × Passthrough × σ :=
  match d.handle with
  | some _ => (.ok (), d, s)
  | none =>
    match host.openDevice d.device.id s with
    | (.error e, s) => (.error (.ofHost e), d, s)
    | (.ok handle, s) =>
      match host.claim handle defaultInterface (host.autoDetach handle true s).2 with
      | (.error e, s) => (.error (.ofHost e), d, host.closeHandle handle s)
      | (.ok (), s) =>
        (.ok (), { d with handle := some handle, claimed := d.claimed.insert defaultInterface }, s)

/-- Releases interfaces one after another, whatever the host says. -/
def releaseAll (handle : HostHandle) (interfaces : List UInt8) (s : σ) : σ :=
  interfaces.foldl (fun s i => (host.release handle i s).2) s

/-- Releases all interfaces and closes the device on the host. -/
def close (d : Passthrough) (s : σ) : Passthrough × σ :=
  match d.handle with
  | none => (d, s)
  | some handle =>
    ({ d with handle := none, claimed := .empty },
      host.closeHandle handle (releaseAll host handle d.claimed.toList s))

/-- Closes the device for good and lets go of the host's device. -/
def discard (d : Passthrough) (s : σ) : σ :=
  let (d, s) := d.close host s
  host.unreference d.device.id s

/-- Reads one configuration. There is none if the host fails or what the device sends is no
configuration. -/
def readConfiguration (handle : HostHandle) (timeout : Nat) (index : UInt8) (s : σ) :
    Option DescriptorTree × σ :=
  let setup := StandardRequest.askDescriptor DescriptorKind.configuration index
    (UInt16.ofNat readSize)
  let buffer := List.replicate readSize 0
  match host.controlSync handle setup buffer timeout s with
  | (.error _, s) => (none, s)
  | (.ok (moved, written), s) =>
    (Configuration.parse ((Bytes.overlay buffer written).take moved), s)

/-- Reads configurations one after another and keeps those that could be read. -/
def readConfigurations (handle : HostHandle) (timeout : Nat) :
    List UInt8 → σ → List DescriptorTree × σ
  | [], s => ([], s)
  | index :: rest, s =>
    let (t, s) := readConfiguration host handle timeout index s
    let (ts, s) := readConfigurations handle timeout rest s
    (t.toList ++ ts, s)

/-- The number of configurations that the device has by its descriptor. -/
def numConfigurations (d : Passthrough) : UInt8 :=
  ((d.state.descriptors.decode? DeviceDescriptor).map (·.numConfigurations)).getD 0

def configurationIndices (d : Passthrough) : List UInt8 :=
  (List.range d.numConfigurations.toNat).map UInt8.ofNat

def withConfigurations (d : Passthrough) (ts : List DescriptorTree) : Passthrough :=
  { d with
    state.descriptors := .node d.state.descriptors.root ts
    complete := ts.length == d.numConfigurations.toNat }

/-- Reads all configurations, unless that was done before without a gap. A device that is not open
is opened on the host for the time of the reads. -/
def readDescriptors (d : Passthrough) (s : σ) : Passthrough × σ :=
  if d.complete then (d, s)
  else
    match d.handle with
    | some handle =>
      let (ts, s) := readConfigurations host handle d.readTimeout d.configurationIndices s
      (d.withConfigurations ts, s)
    | none =>
      match host.openDevice d.device.id s with
      | (.error _, s) => (d, s)
      | (.ok handle, s) =>
        let (ts, s) := readConfigurations host handle d.readTimeout d.configurationIndices s
        (d.withConfigurations ts, host.closeHandle handle s)

/-- The selected configuration as the host reports it, if there is room for the answer. -/
def getConfiguration (d : Passthrough) (room : Nat) (s : σ) : Bytes × σ :=
  match d.handle, room with
  | none, _ | _, 0 => ([], s)
  | some handle, _ + 1 =>
    match host.configuration handle s with
    | (.ok value, s) => ([value], s)
    | (.error _, s) => ([], s)

/-- Whether the host accepted something. -/
def accepted {α : Type} : Except HostError α × σ → Bool × σ
  | (.ok _, s) => (true, s)
  | (.error _, s) => (false, s)

/-- Selects a configuration. The selection is noted first, and it stays noted if the host
refuses it. -/
def setConfiguration (d : Passthrough) (value : UInt8) (s : σ) : Bool × Passthrough × σ :=
  let d := { d with state.configuration := value }
  match d.handle with
  | none => (false, d, s)
  | some handle =>
    let (ok, s) := accepted (host.setConfiguration handle value s)
    (ok, d, s)

/-- Selects an interface and claims it. The selection stays noted if the host refuses it. -/
def setInterface (d : Passthrough) (number : UInt8) (s : σ) : Bool × Passthrough × σ :=
  let d := { d with state.interface := number }
  match d.handle with
  | none => (false, d, s)
  | some handle =>
    let (ok, s) := accepted (host.claim handle number s)
    (ok, if ok then { d with claimed := d.claimed.insert number } else d, s)

def setAlternate (d : Passthrough) (interface setting : UInt8) (s : σ) : Except UsbError Unit × σ :=
  match d.handle with
  | none => (.error .noDevice, s)
  | some handle =>
    let (answer, s) := host.setAlternate handle interface setting s
    (answer.mapError .ofHost, s)

def claim (d : Passthrough) (interface : UInt8) (s : σ) : Except UsbError Unit × Passthrough × σ :=
  if d.state.interfaceCount ≤ interface then (.error .invalidArgument, d, s)
  else
    match d.handle with
    | none => (.error .noDevice, d, s)
    | some handle =>
      if interface ∈ d.claimed then (.ok (), d, s)
      else
        match host.claim handle interface s with
        | (.error e, s) => (.error (.ofHost e), d, s)
        | (.ok (), s) => (.ok (), { d with claimed := d.claimed.insert interface }, s)

def release (d : Passthrough) (interface : UInt8) (s : σ) :
    Except UsbError Unit × Passthrough × σ :=
  match d.handle with
  | none => (.error .noDevice, d, s)
  | some handle =>
    match host.release handle interface s with
    | (.error e, s) => (.error (.ofHost e), d, s)
    | (.ok (), s) => (.ok (), { d with claimed := d.claimed.erase interface }, s)

/-- Whether the host still lists the device. -/
def isConnected (d : Passthrough) (s : σ) : Bool × σ :=
  match host.deviceList s with
  | (.ok devices, s) => (devices.any (·.id == d.device.id), s)
  | (.error _, s) => (false, s)

/-! ## Transfers -/

/-- The setup packet and data stage of a control transfer. The packet is sent with the length of
the data stage, which is that of the guest's buffer. -/
def controlPayload (setup : SetupPacket) (data : Bytes) : Bytes :=
  { setup with length := UInt16.ofNat data.length }.toBytes ++ data

def controlTransfer (d : Passthrough) (setup : SetupPacket) (buffer : GuestBuffer) (v : Service) :
    Service :=
  match d.handle with
  | none => v.finish .noDevice 0
  | some handle =>
    let buffer := buffer.truncated maxTransferLength
    let payload := controlPayload setup (v.dataStage setup.isIn buffer)
    { v with
      transfer := { v.transfer with controlDestination := if setup.isIn then some buffer else none }
      submission := some { id := v.id, handle, kind := .control, endpoint := 0, buffer := payload } }

/-- The transfer with a place for its data, if data flows to the guest. -/
def expecting (t : Transfer) (endpoint : UInt8) (buffer : GuestBuffer) : Transfer :=
  if isInEndpoint endpoint then { t with endpointDestination := some buffer } else t

def interruptTransfer (d : Passthrough) (endpoint : UInt8) (buffer : GuestBuffer) (v : Service) :
    Service :=
  match d.handle with
  | none => v.finish .noDevice 0
  | some handle =>
    let buffer := buffer.truncated maxTransferLength
    let data := v.dataStage (isInEndpoint endpoint) buffer
    { v with
      transfer := expecting v.transfer endpoint buffer
      submission := some { id := v.id, handle, kind := .interrupt, endpoint, buffer := data } }

/-- Prepares an isochronous transfer. Its data has the length of all packets together, or that of
the guest's buffer if it is shorter. -/
def isochronousTransfer (d : Passthrough) (v : Service) : Service :=
  match d.handle with
  | none => v.finish .noDevice 0
  | some handle =>
    let request := v.transfer.iso
    let buffer := request.buffer.truncated request.totalLength
    let data := v.dataStage (isInEndpoint request.endpoint) buffer
    { v with
      transfer := expecting v.transfer request.endpoint buffer
      submission := some {
        id := v.id, handle, kind := .isochronous, endpoint := request.endpoint, buffer := data,
        packetLengths := request.entries } }

end Passthrough

end VirtualUsb
