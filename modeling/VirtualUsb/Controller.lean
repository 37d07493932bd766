import VirtualUsb.Bus.Open
import VirtualUsb.Bus.Requests
import VirtualUsb.Bus.Transfers
import VirtualUsb.Settings.Device

/-!
# The controller

A controller drives a bus with the host's USB stack and a clock. Transfers for the host are handed
over once the bus has accepted them; `Controller.poll` lets the host report, then ends the emulated
transfers that are due.
-/

namespace VirtualUsb

/-- A virtual USB host controller in a world `σ`. -/
structure Controller (σ : Type) where
  host : Host σ
  clock : σ → UInt64
  bus : Bus σ
  running : Bool := true

namespace Controller

variable {σ : Type}

/-! ## Starting -/

def shows (c : Settings) (d : HostDevice) : Bool :=
  (c.filterFor d.descriptor.vendorId d.descriptor.productId).isSome

/-- Puts a device of the host on the bus, at the next location. -/
def attachHostDevice (host : Host σ) (c : Settings) (b : Bus σ) (s : σ) (d : HostDevice) :
    Bus σ × σ :=
  let (location, b) := b.newLocation
  let (p, s) := Passthrough.attach host d location (c.readTimeout.toNat * 1000) s
  (b.attach host (.passthrough p) s).2

/-- Whether an emulated device is left out for the sake of a host device. -/
def isReplaced (shown : List HostDevice) (e : EmulatedSettings) : Bool :=
  e.onlyIfAbsent && shown.any fun d =>
    d.descriptor.vendorId == e.vendorId && d.descriptor.productId == e.productId

/-- Puts an emulated device on the bus, at the next location. -/
def attachEmulated (host : Host σ) (b : Bus σ) (s : σ) (e : EmulatedSettings) : Bus σ × σ :=
  let (location, b) := b.newLocation
  (b.attach host (.emulated (e.device location)) s).2

/-- The devices of the host; none if the host cannot list them. -/
def hostDevices (host : Host σ) (s : σ) : List HostDevice × σ :=
  match host.deviceList s with
  | (.ok devices, s) => (devices, s)
  | (.error _, s) => ([], s)

/-- Starts a controller. The bus first holds the host's devices that the settings show, then the
emulated devices. -/
def start (host : Host σ) (clock : σ → UInt64) (c : Settings) (memory : Memory) (s : σ) :
    Except SettingsError (Controller σ) × σ :=
  match c.fault with
  | some e => (.error e, s)
  | none =>
    let (devices, s) := hostDevices host s
    let shown := devices.filter (shows c)
    let (b, s) := shown.foldl (fun (b, s) d => attachHostDevice host c b s d)
      (Bus.empty c.poolSize c.latency memory, s)
    let (b, s) := (c.emulated.filter (!isReplaced shown ·)).foldl
      (fun (b, s) e => attachEmulated host b s e) (b, s)
    (.ok { host, clock, bus := b }, s)

/-! ## Transfers -/

/-- Hands a transfer to the host if it is meant for it. A transfer that the host refuses has
failed, but it was accepted. -/
def handOver (c : Controller σ) (d : Dispatch) (s : σ) : Controller σ × σ :=
  match d.submission with
  | none => (c, s)
  | some t =>
    match c.host.handOver t s with
    | (.ok (), s) => (c, s)
    | (.error e, s) => ({ c with bus := c.bus.fail d.id e }, s)

/-- Follows up what the bus said to a transfer. -/
def followUp (c : Controller σ) :
    Except UsbError Dispatch × Bus σ × σ → Except UsbError TransferId × Controller σ × σ
  | (.error e, b, s) => (.error e, { c with bus := b }, s)
  | (.ok d, b, s) => (.ok d.id, { c with bus := b }.handOver d s)

def submitControl (c : Controller σ) (h : Handle) (setup : SetupPacket) (buffer : GuestBuffer)
    (s : σ) : Except UsbError TransferId × Controller σ × σ :=
  c.followUp (c.bus.submitControl h setup buffer (c.clock s) s)

def submitInterrupt (c : Controller σ) (h : Handle) (endpoint : UInt8) (buffer : GuestBuffer)
    (s : σ) : Except UsbError TransferId × Controller σ × σ :=
  c.followUp (c.bus.submitInterrupt h endpoint buffer (c.clock s) s)

def submitIsochronous (c : Controller σ) (h : Handle) (request : IsoRequest) (s : σ) :
    Except UsbError TransferId × Controller σ × σ :=
  c.followUp (c.bus.submitIsochronous h request (c.clock s) s)

/-! ## Progress -/

/-- Takes in a report of the host. A controller that was shut down drops it. -/
def deliver (c : Controller σ) (completion : Completion) (s : σ) : Controller σ × σ :=
  if c.running then
    let (b, s) := c.bus.complete c.host completion s
    ({ c with bus := b }, s)
  else (c, s)

/-- Takes in reports of the host one after another. -/
def deliverAll (c : Controller σ) (completions : List Completion) (s : σ) : Controller σ × σ :=
  completions.foldl (fun (c, s) completion => c.deliver completion s) (c, s)

/-- Lets the host work for some microseconds, then ends the emulated transfers that are due. An
error of the host is passed on, but keeps nothing from ending. -/
def poll (c : Controller σ) (timeout : Nat) (s : σ) : Except UsbError Unit × Controller σ × σ :=
  let ((completions, answer), s) := c.host.handleEvents timeout s
  let (c, s) := c.deliverAll completions s
  (answer.mapError .ofHost, { c with bus := (c.bus.pump (c.clock s)).2 }, s)

/-- Ends a controller: its devices are closed and leave the bus. -/
def shutDown (c : Controller σ) (s : σ) : Controller σ × σ :=
  let (b, s) := c.bus.clear c.host s
  ({ c with bus := b, running := false }, s)

/-! ## Descriptions -/

def describe (c : Controller σ) : String :=
  "Usbd \x7b summary: " ++ c.bus.summary.describe ++ ", .. \x7d"

end Controller

/-- The way back for reports of the host, as text: whether a controller listens at its end. -/
def describeSink (attached : Bool) : String :=
  "CompletionSink \x7b attached: " ++ toString attached ++ " \x7d"

end VirtualUsb
