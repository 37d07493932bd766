import VirtualUsb.Device.Service
import VirtualUsb.Device.State
import VirtualUsb.Wire.StandardRequest
import VirtualUsb.Wire.StringDescriptor

/-!
# Emulated devices

An emulated device answers standard requests from its own descriptors and strings. Its answers are
ready at once, but each transfer ends only when its scheduled time has come, as with a real device.
All other requests go to a `Peripheral`; without one they move no data, and interrupt transfers
stay open.
-/

namespace VirtualUsb

/-- What an emulated device can do beyond the standard requests. A peripheral is lent the data
stage: it answers how many bytes it moved, if it served the request at all, and what it wrote. -/
structure Peripheral (σ : Type) where
  control : SetupPacket → Bytes → σ → (Option Nat × Bytes) × σ
  interrupt : UInt8 → Bytes → σ → (Option Nat × Bytes) × σ

/-- The peripheral that serves nothing. -/
def Peripheral.idle {σ : Type} : Peripheral σ where
  control _ _ s := ((none, []), s)
  interrupt _ _ s := ((none, []), s)

/-- The status of a device, as it says itself. -/
structure DeviceStatus where
  selfPowered : Bool := false
  remoteWakeup : Bool := false
  deriving DecidableEq, Repr, Inhabited

namespace DeviceStatus

/-- The status word: bit 0 for self-powered, bit 1 for remote wakeup. -/
def bits (s : DeviceStatus) : UInt16 :=
  (if s.selfPowered then 1 else 0) + (if s.remoteWakeup then 2 else 0)

/-- The status in a word, whose other bits have no meaning. -/
def ofBits (w : UInt16) : DeviceStatus := ⟨w &&& 1 != 0, w &&& 2 != 0⟩

def answer (s : DeviceStatus) : Bytes := Bytes.ofWord s.bits

end DeviceStatus

/-- A device made of software. -/
structure Emulated (σ : Type) where
  state : DeviceState
  strings : List String := []
  status : DeviceStatus := {}
  peripheral : Option (Peripheral σ) := none

namespace Emulated

variable {σ : Type}

def ofDescriptor (descriptor : DeviceDescriptor) (location : Location) : Emulated σ where
  state := { location, descriptors := .ofLayout descriptor }

/-- The index of the last string; strings count from one, and the index wraps after 255. -/
def lastStringIndex (d : Emulated σ) : UInt8 := UInt8.ofNat d.strings.length

def addString (d : Emulated σ) (text : String) : Emulated σ :=
  { d with strings := d.strings ++ [text] }

/-- The device tree with the number of configurations set right. -/
def countConfigurations (t : DescriptorTree) : DescriptorTree :=
  match t.decode? DeviceDescriptor with
  | some d => t.setLayout { d with numConfigurations := UInt8.ofNat t.children.length }
  | none => t

/-- The device with one more configuration, whose total length is set right. -/
def addConfiguration (d : Emulated σ) (configuration : DescriptorTree) : Emulated σ :=
  let added := configuration.withTotalLength?.getD configuration
  { d with state.descriptors := countConfigurations (d.state.descriptors.addChild added) }

/-- The answer to GET_DESCRIPTOR, empty if there is no such descriptor. A configuration is
answered without what stands below it. -/
def descriptorAnswer (d : Emulated σ) (kind index : UInt8) : Bytes :=
  if kind = DescriptorKind.device then d.state.descriptors.root.toBytes
  else if kind = DescriptorKind.configuration then
    match d.state.descriptors.children[index.toNat]? with
    | some c => c.root.toBytes
    | none => []
  else if kind = DescriptorKind.string then
    if index = 0 then StringDescriptor.languages
    else
      match d.strings[index.toNat - 1]? with
      | some text => StringDescriptor.ofText text
      | none => []
  else []

/-- What a request came to: the number of bytes moved, if it was served, the data stage, and the
device. -/
structure Outcome (σ : Type) where
  count : Option Nat
  data : Bytes
  device : Emulated σ

/-- A data stage with an answer written at its start. -/
def answered (d : Emulated σ) (data answer : Bytes) : Outcome σ :=
  ⟨some (min answer.length data.length), Bytes.overlay data answer, d⟩

def serveStandard (d : Emulated σ) (data : Bytes) : StandardRequest → Outcome σ
  | .setConfiguration value =>
    ⟨some data.length, data, { d with state.configuration := value }⟩
  | .setInterface number => ⟨some data.length, data, { d with state.interface := number }⟩
  | .getStatus => d.answered data d.status.answer
  | .getDescriptor kind index => d.answered data (d.descriptorAnswer kind index)
  | .getConfiguration => d.answered data [d.state.configuration]

/-- Serves a control request: a standard one by itself, any other by the peripheral. -/
def serve (d : Emulated σ) (setup : SetupPacket) (data : Bytes) (s : σ) : Outcome σ × σ :=
  match StandardRequest.ofSetup setup with
  | some request => (d.serveStandard data request, s)
  | none =>
    match d.peripheral with
    | none => (⟨none, data, d⟩, s)
    | some p =>
      let ((count, written), s) := p.control setup data s
      (⟨count, Bytes.overlay data written, d⟩, s)

/-- Ends a service: the bytes moved go to the guest if they flow that way, and the end is
scheduled. -/
def conclude (v : Service) (isIn : Bool) (b : GuestBuffer) (data : Bytes) (count : Nat) :
    Service :=
  let moved := min count data.length
  let v := if isIn then v.writeGuest b (data.take moved) else v
  v.schedule .completed moved

/-- Serves a control transfer. The data stage has the length that the setup packet asks for, or
that of the guest's buffer if it is shorter. -/
def controlTransfer (d : Emulated σ) (setup : SetupPacket) (buffer : GuestBuffer) (v : Service)
    (s : σ) : Emulated σ × Service × σ :=
  let buffer := buffer.truncated setup.length.toNat
  let (o, s) := d.serve setup (v.dataStage setup.isIn buffer) s
  (o.device, conclude v setup.isIn buffer o.data (o.count.getD 0), s)

/-- Serves an interrupt transfer, which stays open unless the peripheral serves it. -/
def interruptTransfer (d : Emulated σ) (endpoint : UInt8) (buffer : GuestBuffer) (v : Service)
    (s : σ) : Service × σ :=
  match d.peripheral with
  | none => (v, s)
  | some p =>
    let buffer := buffer.truncated maxTransferLength
    let data := v.dataStage (isInEndpoint endpoint) buffer
    let ((count, written), s) := p.interrupt endpoint data s
    match count with
    | none => (v, s)
    | some count =>
      (conclude v (isInEndpoint endpoint) buffer (Bytes.overlay data written) count, s)

end Emulated

end VirtualUsb
