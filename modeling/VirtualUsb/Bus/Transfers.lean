import VirtualUsb.Bus.Attach

/-!
# Transfers on the bus

Submitting a transfer claims a slot and lets the device serve it. The slot becomes free again by a
report of the host, by its refusal of the transfer, or by the agenda.
-/

namespace VirtualUsb

/-- A transfer that the bus accepted, with what is to be handed to the host. -/
structure Dispatch where
  id : TransferId
  submission : Option HostTransfer
  deriving DecidableEq, Repr

namespace Bus

variable {σ : Type} (host : Host σ)

/-- The slot of a claimed transfer to the device of a handle. -/
def prepare (t : Transfer) (h : Handle) (iso : IsoRequest) : Transfer :=
  { t with owner := some h.location, iso }

def serviceOf (b : Bus σ) (t : Transfer) (now : UInt64) : Service where
  transfer := t
  memory := b.memory
  agenda := b.agenda
  now
  latency := b.latency

def absorb (b : Bus σ) (pool : TransferPool) (v : Service) : Bus σ :=
  { b with pool := pool.set v.id v.transfer, memory := v.memory, agenda := v.agenda }

/-- Claims a slot and lets the device of a handle serve the transfer. -/
def dispatch (b : Bus σ) (h : Handle) (now : UInt64) (iso : IsoRequest)
    (serve : Device σ → Service → σ → Device σ × Service × σ) (s : σ) :
    Except UsbError Dispatch × Bus σ × σ :=
  match b.openedDevice h with
  | none => (.error .noDevice, b, s)
  | some (key, d) =>
    match b.pool.allocate with
    | none => (.error .busy, b, s)
    | some (t, pool) =>
      let (d, v, s) := serve d (b.serviceOf (prepare t h iso) now) s
      (.ok ⟨t.id, v.submission⟩, (b.absorb pool v).withDevice key d, s)

def submitControl (b : Bus σ) (h : Handle) (setup : SetupPacket) (buffer : GuestBuffer)
    (now : UInt64) (s : σ) : Except UsbError Dispatch × Bus σ × σ :=
  b.dispatch h now {} (fun d v s => d.controlTransfer setup buffer v s) s

def submitInterrupt (b : Bus σ) (h : Handle) (endpoint : UInt8) (buffer : GuestBuffer)
    (now : UInt64) (s : σ) : Except UsbError Dispatch × Bus σ × σ :=
  b.dispatch h now {} (fun d v s => d.interruptTransfer endpoint buffer v s) s

/-- Submits an isochronous transfer, which may have at most eight packets. -/
def submitIsochronous (b : Bus σ) (h : Handle) (request : IsoRequest) (now : UInt64) (s : σ) :
    Except UsbError Dispatch × Bus σ × σ :=
  if IsoRequest.maxPackets < request.numPackets.toNat then (.error .invalidArgument, b, s)
  else b.dispatch h now request (fun d v s => d.isochronousTransfer v s) s

def awaitsHost (t : Transfer) : Bool := t.busy && !t.isScheduled

/-- Applies a report of the host. A report for a transfer that does not wait for the host is
ignored, and a report that the device is gone takes the device at the location of the transfer's
owner off the bus. -/
def complete (b : Bus σ) (c : Completion) (s : σ) : Bus σ × σ :=
  match b.pool.get? c.id with
  | none => (b, s)
  | some t =>
    if awaitsHost t then
      let b := { b with
        pool := b.pool.set c.id (t.deliver c), memory := t.deliverData c b.memory }
      match c.status, t.owner with
      | .noDevice, some location => b.disconnectAt host location true s
      | _, _ => (b, s)
    else (b, s)

/-- Ends a transfer that the host refused. -/
def fail (b : Bus σ) (id : TransferId) (e : HostError) : Bus σ :=
  match b.pool.get? id with
  | none => b
  | some t =>
    if awaitsHost t then { b with pool := b.pool.set id (t.finish (.ofHost e) 0) } else b

/-- Ends the transfers on the agenda that are due; how many these are. -/
def pump (b : Bus σ) (now : UInt64) : Nat × Bus σ :=
  let p := b.agenda.pump b.pool now
  (p.completed, { b with pool := p.pool, agenda := p.agenda })

def transferResult (b : Bus σ) (id : TransferId) : Except UsbError TransferResult :=
  match b.pool.get? id with
  | none => .error .invalidArgument
  | some t => .ok t.result

def isoResult (b : Bus σ) (id : TransferId) : Except UsbError IsoResult :=
  match b.pool.get? id with
  | none => .error .invalidArgument
  | some t => .ok t.isoResult

end Bus

end VirtualUsb
