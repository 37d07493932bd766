import VirtualUsb.Proofs.Device.Confinement
import VirtualUsb.Proofs.Transfer.ControlStage

/-!
# The framing of control requests

What a passthrough device hands to the host for a control request is the guest's setup packet
followed by a data stage of as many bytes as the guest's buffer has, up to the largest number that
the length of a setup packet can say (`HostTransfer.Frames`). Reading a setup packet undoes writing
it and the other way round (`SetupPacket.ofBytes_eq_some_iff`), so the host finds in the packet the
number of bytes that follow it. Serving the request neither reads memory behind these bytes nor
writes any; `Scene.framed_of_idle` says this of every bus.
-/

namespace VirtualUsb

/-! ## Setup packets on the wire -/

namespace SetupPacket

/-- Reading a setup packet undoes writing it, and there is no other wire form for it. -/
theorem ofBytes_eq_some_iff {bytes : Bytes} {p : SetupPacket} :
    ofBytes bytes = some p ↔ p.toBytes = bytes := by
  constructor
  · intro h
    unfold ofBytes at h
    split at h
    · obtain rfl := Option.some.inj h
      simp [toBytes, Bytes.ofWord]
    · cases h
  · intro h
    rw [← h, ofBytes_toBytes]

theorem exists_ofBytes {bytes : Bytes} (h : bytes.length = wireSize) :
    ∃ p, ofBytes bytes = some p := by
  match bytes, h with
  | [_, _, _, _, _, _, _, _], _ => exact ⟨_, rfl⟩

end SetupPacket

/-! ## Framed requests -/

/-- Whether a transfer asks the host for a control request with `n` bytes of memory from `addr` on
as its data stage: the guest's setup packet, changed in nothing but the length of the data stage,
and the data stage behind it. -/
structure HostTransfer.Frames (t : HostTransfer) (setup : SetupPacket) (addr : UInt64) (n : Nat)
    (m : Memory) : Prop where
  kind : t.kind = .control
  endpoint : t.endpoint = 0
  plain : t.packetLengths = [] ∧ t.timeout = 0
  packet : ∃ length : UInt16, length.toNat = n ∧
    SetupPacket.ofBytes (t.buffer.take SetupPacket.wireSize) = some { setup with length }
  data : m.Lends setup.isIn addr n (t.buffer.drop SetupPacket.wireSize)

/-- No more data follows a setup packet than its length can say. -/
theorem HostTransfer.frames_of_controlPayload {t : HostTransfer} (setup : SetupPacket)
    (buffer : GuestBuffer) (m : Memory) (hkind : t.kind = .control) (hendpoint : t.endpoint = 0)
    (hplain : t.packetLengths = [] ∧ t.timeout = 0)
    (hbuffer : t.buffer = Passthrough.controlPayload setup
      ((buffer.truncated maxTransferLength).dataStage m setup.isIn)) :
    t.Frames setup buffer.addr (min buffer.len maxTransferLength) m := by
  have hlends := m.lends_dataStage setup.isIn buffer maxTransferLength
  refine ⟨hkind, hendpoint, hplain,
    ⟨UInt16.ofNat (min buffer.len maxTransferLength), ?_, ?_⟩, ?_⟩
  · apply UInt16.toNat_ofNat_of_lt'
    exact Nat.lt_succ_of_le (Nat.min_le_right buffer.len 65535)
  · rw [hbuffer, Passthrough.take_controlPayload, hlends.length_eq, SetupPacket.ofBytes_toBytes]
  · rw [hbuffer, Passthrough.drop_controlPayload]
    exact hlends

namespace Passthrough

/-- What a passthrough device that is open on the host makes of a control transfer: a framed
request, and a place for the answer just if data flows to the guest. -/
theorem framed_controlTransfer {p : Passthrough} {handle : HostHandle} (hp : p.handle = some handle)
    (setup : SetupPacket) (buffer : GuestBuffer) (v : Service) :
    let destination := if setup.isIn then some (buffer.truncated maxTransferLength) else none
    ∃ t, p.controlTransfer setup buffer v = { v with
        transfer := { v.transfer with controlDestination := destination }, submission := some t } ∧
      t.id = v.id ∧ t.handle = handle ∧
      t.Frames setup buffer.addr (min buffer.len maxTransferLength) v.memory := by
  intro destination
  unfold controlTransfer
  rw [hp]
  refine ⟨_, rfl, rfl, rfl, ?_⟩
  exact HostTransfer.frames_of_controlPayload setup buffer v.memory rfl rfl ⟨rfl, rfl⟩ rfl

end Passthrough

/-- What an accepted request leaves behind: a framed transfer for the host under the name of a slot,
and the slot with the place for the answer. -/
theorem Bus.framed_of_ok {σ : Type} {b : Bus σ} {s : σ} {handle : Handle} {key : DeviceKey}
    {p : Passthrough} {hostHandle : HostHandle} {setup : SetupPacket} {buffer : GuestBuffer}
    {now : UInt64} {a : Dispatch} (hn : b.pool.Named)
    (hd : b.openedDevice handle = some (key, .passthrough p)) (hp : p.handle = some hostHandle)
    (hok : (b.submitControl handle setup buffer now s).1 = .ok a) :
    let r := (b.submitControl handle setup buffer now s).2
    let length := min buffer.len maxTransferLength
    (∃ t slot, a.submission = some t ∧ t.id = a.id ∧ t.handle = hostHandle ∧
      t.Frames setup buffer.addr length b.memory ∧
      r.1.pool.get? a.id = some slot ∧ slot.id = a.id ∧ slot.busy = true ∧
      slot.controlDestination = if setup.isIn then some ⟨buffer.addr, length⟩ else none) ∧
    r.1.memory = b.memory ∧ r.2 = s := by
  intro r length
  have htarget : (Operation.submitControl handle setup buffer now : Operation σ).target? =
    some handle := rfl
  obtain ⟨old, begun, cursor, served, hold, hserved, hsub, hcall⟩ :=
    call_of_openedDevice .none s hn hd htarget (congrArg Answer.dispatch hok)
  generalize hv : b.serviceFor (.submitControl handle setup buffer now) handle a.id begun = v
    at hserved
  obtain ⟨t, hframed, hid, hhandle, hframes⟩ :=
    Passthrough.framed_controlTransfer hp setup buffer v
  obtain rfl : served = (.passthrough p, p.controlTransfer setup buffer v, s) := hserved
  have hr : r = _ := hcall
  rw [hr, hsub, hframed, ← hv]
  rw [← hv] at hid hframes
  have hslot (u : Transfer) : (b.pool.set a.id u).get? a.id = some u :=
    (TransferPool.get?_set_of_get? hold u a.id).trans (if_pos rfl)
  exact ⟨⟨t, _, rfl, hid, hhandle, hframes, hslot _, rfl, rfl, rfl⟩, rfl, rfl⟩

namespace Scene

variable {σ : Type} {host : Host σ} {allowed : Scene σ → Operation σ → Prop}

/-- **Control requests are framed right.** Whatever calls were made of a new bus, a control request
for a passthrough device that is open gets a slot if there is an idle one, and the transfer prepared
for the host carries the name of this slot. It holds the guest's setup packet with the length of the
data stage, then the data stage: zeros if data flows to the guest, and otherwise the bytes of the
guest's buffer, with zeros past the end of memory. The slot notes where an answer is to go just if
one is expected, and memory and world stay as they were. -/
theorem framed_of_idle {n : Nat} (hn : n ≤ UInt32.size) {latency : UInt64} {memory : Memory}
    {world : σ} {c : Scene σ} (h : Reached host allowed ⟨Bus.empty n latency memory, world, []⟩ c)
    {handle : Handle} {key : DeviceKey} {p : Passthrough} {hostHandle : HostHandle}
    (hd : c.bus.openedDevice handle = some (key, .passthrough p)) (hp : p.handle = some hostHandle)
    (hidle : ∃ id t, c.bus.pool.get? id = some t ∧ t.busy = false)
    (setup : SetupPacket) (buffer : GuestBuffer) (now : UInt64) :
    let r := c.bus.submitControl handle setup buffer now c.world
    let length := min buffer.len 65535
    (∃ a t slot, r.1 = .ok a ∧ a.submission = some t ∧ t.id = a.id ∧ t.handle = hostHandle ∧
      t.Frames setup buffer.addr length c.bus.memory ∧
      r.2.1.pool.get? a.id = some slot ∧ slot.id = a.id ∧ slot.busy = true ∧
      slot.controlDestination = if setup.isIn then some ⟨buffer.addr, length⟩ else none) ∧
    r.2.1.memory = c.bus.memory ∧ r.2.2 = c.world ∧
    (∀ q : SetupPacket, SetupPacket.ofBytes q.toBytes = some q) ∧
    (∀ bytes : Bytes, bytes.length = 8 →
      ∃ q, SetupPacket.ofBytes bytes = some q ∧ q.toBytes = bytes) := by
  intro r length
  have hnamed := h.named (TransferPool.named_ofCapacity hn)
  obtain ⟨id, idle, hget, hfree⟩ := hidle
  obtain ⟨start, pool, hslot⟩ := TransferPool.exists_allocate_of_idle hget hfree
  obtain ⟨a, ha⟩ := Bus.exists_ok_of_allocate c.world now {}
    (fun d v s => d.controlTransfer setup buffer v s) hd hslot
  obtain ⟨⟨t, slot, hframed⟩, hmemory, hworld⟩ := Bus.framed_of_ok hnamed hd hp ha
  refine ⟨⟨a, t, slot, ha, hframed⟩, hmemory, hworld, fun q => q.ofBytes_toBytes,
    fun bytes hbytes => ?_⟩
  obtain ⟨q, hq⟩ := SetupPacket.exists_ofBytes hbytes
  exact ⟨q, hq, SetupPacket.ofBytes_eq_some_iff.1 hq⟩

/-- A request that carries data to the device. -/
def sevenOut : SetupPacket := { requestType := 0x21, request := 9, value := 0x200 }

/-- Of the seven bytes of the buffer there is memory for two. -/
theorem framed_of_sevenOut :
    Reached .obliging (fun c op => c.bus.AttachesClosed op) blank plugged ∧
      ∃ key p t, plugged.bus.openedDevice default = some (key, .passthrough p) ∧
        p.handle = some 1 ∧ (∃ slot, plugged.bus.pool.get? ⟨0⟩ = some slot ∧ slot.busy = false) ∧
        (plugged.bus.submitControl default sevenOut ⟨14, 7⟩ 0 ()).1 = .ok ⟨⟨1⟩, some t⟩ ∧
        t.Frames sevenOut 14 7 plugged.bus.memory ∧
        t.buffer = [0x21, 9, 0, 2, 0, 0, 7, 0] ++ List.replicate 7 0 := by
  have hopened : plugged.bus.openedDevice default = some (_, .passthrough _) := rfl
  obtain ⟨⟨a, t, slot, ha, ht, -, -, hframes, -⟩, -⟩ := framed_of_idle (by decide) reached_plugged
    hopened rfl ⟨⟨0⟩, _, rfl, rfl⟩ sevenOut ⟨14, 7⟩ 0
  have hok : (plugged.bus.submitControl default sevenOut ⟨14, 7⟩ 0 ()).1 = .ok ⟨⟨1⟩, some _⟩ := rfl
  obtain rfl := Except.ok.inj (ha.symm.trans hok)
  obtain rfl := Option.some.inj ht
  exact ⟨reached_plugged, _, _, _, hopened, rfl, ⟨_, rfl, rfl⟩, hok, hframes, rfl⟩

end Scene

end VirtualUsb
