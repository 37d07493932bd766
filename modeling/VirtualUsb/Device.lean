import VirtualUsb.Device.Emulated
import VirtualUsb.Device.External
import VirtualUsb.Device.Passthrough

/-!
# Devices

A device of the bus is emulated, stands for a device of the host, or was brought along by a
caller. Where only one kind has something to do, the others follow their state: they are always
open, accept every configuration and hold every interface that their configuration has.
-/

namespace VirtualUsb

/-- A device of the bus. -/
inductive Device (σ : Type) where
  | emulated (device : Emulated σ)
  | passthrough (device : Passthrough)
  | external (device : External σ)

namespace Device

variable {σ : Type} (host : Host σ)

/-- The state that every device keeps. -/
def state : Device σ → DeviceState
  | emulated d => d.state
  | passthrough d => d.state
  | external d => d.state

def withState (d : Device σ) (state : DeviceState) : Device σ :=
  match d with
  | emulated d => emulated { d with state }
  | passthrough d => passthrough { d with state }
  | external d => external { d with state }

def openForUse (d : Device σ) (s : σ) : Except UsbError Unit × Device σ × σ :=
  match d with
  | emulated _ => (.ok (), d, s)
  | passthrough p =>
    let (answer, p, s) := p.openForUse host s
    (answer, passthrough p, s)
  | external x =>
    let (answer, s) := x.openForUse s
    (answer, d, s)

/-- Gives back what `openForUse` took. -/
def close (d : Device σ) (s : σ) : Device σ × σ :=
  match d with
  | passthrough p =>
    let (p, s) := p.close host s
    (passthrough p, s)
  | emulated _ | external _ => (d, s)

/-- Ends a device that nothing refers to any more. -/
def discard (d : Device σ) (s : σ) : σ :=
  match d with
  | passthrough p => p.discard host s
  | emulated _ | external _ => s

/-- Fetches the configurations of a device. -/
def readDescriptors (d : Device σ) (s : σ) : Device σ × σ :=
  match d with
  | passthrough p =>
    let (p, s) := p.readDescriptors host s
    (passthrough p, s)
  | emulated _ | external _ => (d, s)

/-- The selected configuration as the device reports it, if there is room for the answer. -/
def getConfiguration (d : Device σ) (room : Nat) (s : σ) : Bytes × σ :=
  match d with
  | passthrough p => p.getConfiguration host room s
  | emulated _ | external _ => ([d.state.configuration].take room, s)

/-- Selects a configuration; whether the device agreed. -/
def setConfiguration (d : Device σ) (value : UInt8) (s : σ) : Bool × Device σ × σ :=
  match d with
  | passthrough p =>
    let (ok, p, s) := p.setConfiguration host value s
    (ok, passthrough p, s)
  | emulated _ | external _ => (true, d.withState { d.state with configuration := value }, s)

/-- Selects an interface; whether the device agreed. -/
def setInterface (d : Device σ) (number : UInt8) (s : σ) : Bool × Device σ × σ :=
  match d with
  | passthrough p =>
    let (ok, p, s) := p.setInterface host number s
    (ok, passthrough p, s)
  | emulated _ | external _ => (true, d.withState { d.state with interface := number }, s)

def setAlternate (d : Device σ) (interface setting : UInt8) (s : σ) : Except UsbError Unit × σ :=
  match d with
  | passthrough p => p.setAlternate host interface setting s
  | emulated _ | external _ => (.ok (), s)

def claim (d : Device σ) (interface : UInt8) (s : σ) : Except UsbError Unit × Device σ × σ :=
  match d with
  | passthrough p =>
    let (answer, p, s) := p.claim host interface s
    (answer, passthrough p, s)
  | emulated _ | external _ =>
    (if d.state.interfaceCount ≤ interface then .error .invalidArgument else .ok (), d, s)

def release (d : Device σ) (interface : UInt8) (s : σ) : Except UsbError Unit × Device σ × σ :=
  match d with
  | passthrough p =>
    let (answer, p, s) := p.release host interface s
    (answer, passthrough p, s)
  | emulated _ | external _ => (.ok (), d, s)

def isConnected (d : Device σ) (s : σ) : Bool × σ :=
  match d with
  | passthrough p => p.isConnected host s
  | emulated _ | external _ => (true, s)

def controlTransfer (d : Device σ) (setup : SetupPacket) (buffer : GuestBuffer) (v : Service)
    (s : σ) : Device σ × Service × σ :=
  match d with
  | emulated e =>
    let (e, v, s) := e.controlTransfer setup buffer v s
    (emulated e, v, s)
  | passthrough p => (d, p.controlTransfer setup buffer v, s)
  | external x => (d, (x.control setup buffer).run v s)

def interruptTransfer (d : Device σ) (endpoint : UInt8) (buffer : GuestBuffer) (v : Service)
    (s : σ) : Device σ × Service × σ :=
  match d with
  | emulated e => (d, e.interruptTransfer endpoint buffer v s)
  | passthrough p => (d, p.interruptTransfer endpoint buffer v, s)
  | external x => (d, (x.interrupt endpoint buffer).run v s)

/-- Serves an isochronous transfer; one to an emulated device stays open. -/
def isochronousTransfer (d : Device σ) (v : Service) (s : σ) : Device σ × Service × σ :=
  match d with
  | emulated _ => (d, v, s)
  | passthrough p => (d, p.isochronousTransfer v, s)
  | external x => (d, x.isochronous.run v s)

end Device

end VirtualUsb
