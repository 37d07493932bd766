import Mathlib.Algebra.GroupWithZero.Nat
import VirtualUsb.Proofs.Transfer.Submission

/-!
# Packets in the host's buffer

A host lays the packets of an isochronous transfer out one after another in its buffer. All of them
stay within the buffer just if they are no longer than it together (`HostTransfer.packetsFit_iff`).
The buffer is cut to the guest's, but the packets are not: they fit just if the guest passed a
buffer with room for all of them (`Scene.packets_of_isochronous`).
-/

namespace VirtualUsb

/-! ## Packets one after another -/

namespace HostTransfer

/-- Where a packet starts that lies behind all packets before it. -/
def packetStart (t : HostTransfer) (i : Nat) : Nat := ((t.packetLengths.take i).map (·.toNat)).sum

/-- Whether packets that lie one after another stay within the buffer. -/
def PacketsFit (t : HostTransfer) : Prop :=
  ∀ i length, t.packetLengths[i]? = some length → t.packetStart i + length.toNat ≤ t.buffer.length

variable {t : HostTransfer}

theorem packetStart_succ {i : Nat} {length : UInt16} (h : t.packetLengths[i]? = some length) :
    t.packetStart (i + 1) = t.packetStart i + length.toNat := by
  unfold packetStart
  rw [List.take_add_one, h, List.map_append, List.sum_append]
  rfl

theorem packetStart_length :
    t.packetStart t.packetLengths.length = (t.packetLengths.map (·.toNat)).sum := by
  unfold packetStart
  rw [List.take_length]

theorem packetStart_le (i : Nat) : t.packetStart i ≤ (t.packetLengths.map (·.toNat)).sum := by
  unfold packetStart
  conv_rhs => rw [← List.take_append_drop i t.packetLengths, List.map_append, List.sum_append]
  exact Nat.le_add_right ..

theorem packetsFit_iff :
    t.PacketsFit ↔ (t.packetLengths.map (·.toNat)).sum ≤ t.buffer.length := by
  constructor
  · intro h
    -- the last packet ends where all of them do
    rw [← packetStart_length]
    cases hlen : t.packetLengths.length with
    | zero => exact Nat.zero_le _
    | succ i =>
      have hi : i < t.packetLengths.length := hlen ▸ Nat.lt_succ_self i
      have hget := List.getElem?_eq_getElem hi
      rw [packetStart_succ hget]
      exact h i _ hget
  · intro h i length hget
    rw [← packetStart_succ hget]
    exact Nat.le_trans (packetStart_le (i + 1)) h

end HostTransfer

/-! ## Requests -/

namespace IsoRequest

variable (r : IsoRequest)

theorem totalLength_eq : r.totalLength = (r.entries.map (·.toNat)).sum := by
  unfold totalLength
  rw [List.sum_eq_foldl, List.foldl_map]

theorem length_entries : r.entries.length = r.packetCount := by
  unfold entries
  rw [List.length_take, Vector.length_toList]
  exact Nat.min_eq_left (Nat.min_le_right ..)

end IsoRequest

/-- How a transfer prepared for the host goes with the isochronous request that it is made for. -/
structure HostTransfer.Carries (t : HostTransfer) (request : IsoRequest) : Prop where
  kind : t.kind = .isochronous
  endpoint : t.endpoint = request.endpoint
  /-- There is one packet for each that is asked for, as long as the guest says. -/
  packets : t.packetLengths = request.packets.toList.take request.numPackets.toNat
  count : t.packetLengths.length = request.numPackets.toNat
  count_le : t.packetLengths.length ≤ IsoRequest.maxPackets
  /-- The buffer is no longer than the one that the guest passed. -/
  buffer : t.buffer.length = min request.totalLength request.buffer.len
  /-- The packets need not fit. -/
  fits : t.PacketsFit ↔ request.totalLength ≤ request.buffer.len

theorem Passthrough.carries_isochronousTransfer {p : Passthrough} {handle : HostHandle}
    (hp : p.handle = some handle) (v : Service)
    (hmax : v.transfer.iso.numPackets.toNat ≤ IsoRequest.maxPackets) :
    ∃ t, (p.isochronousTransfer v).submission = some t ∧ t.handle = handle ∧ t.id = v.id ∧
      t.Carries v.transfer.iso := by
  have hcount : v.transfer.iso.packetCount = v.transfer.iso.numPackets.toNat := Nat.min_eq_left hmax
  unfold isochronousTransfer
  rw [hp]
  generalize v.transfer.iso = request at hmax hcount
  have hlen : (v.dataStage (isInEndpoint request.endpoint)
      (request.buffer.truncated request.totalLength)).length =
        min request.totalLength request.buffer.len := by
    rw [Service.length_dataStage]
    exact Nat.min_comm ..
  refine ⟨_, rfl, rfl, rfl, rfl, rfl, ?_, ?_, ?_, hlen, ?_⟩
  · show request.entries = _
    rw [IsoRequest.entries, hcount]
  · exact request.length_entries.trans hcount
  · exact Nat.le_trans (Nat.le_of_eq (request.length_entries.trans hcount)) hmax
  · rw [HostTransfer.packetsFit_iff]
    show (request.entries.map (·.toNat)).sum ≤ List.length _ ↔ _
    rw [hlen, ← request.totalLength_eq]
    omega

theorem Bus.numPackets_le_of_ok {σ : Type} {b : Bus σ} {handle : Handle} {request : IsoRequest}
    {now : UInt64} {s : σ} {a : Dispatch}
    (hok : (b.submitIsochronous handle request now s).1 = .ok a) :
    request.numPackets.toNat ≤ IsoRequest.maxPackets := by
  unfold Bus.submitIsochronous at hok
  split at hok
  · exact nomatch hok
  · rename_i hmax
    exact Nat.not_lt.1 hmax

/-- A request for two packets of eight bytes each, with a buffer of ten bytes for both. -/
def IsoRequest.cramped : IsoRequest where
  endpoint := 130
  buffer := ⟨0, 10⟩
  numPackets := 2
  packets := #v[8, 8, 0, 0, 0, 0, 0, 0]

/-! ## Runs -/

namespace Scene

variable {σ : Type} {host : Host σ} {c : Scene σ}

/-- **What isochronous transfers bring the host.** Whatever calls were made of a new bus, an
isochronous request that is accepted for a passthrough device is prepared for the host with a packet
for each that is asked for, at most eight. Laid out one after another, the packets stay within the
buffer of the transfer if the guest's buffer has room for all of them, and otherwise they do not. -/
theorem packets_of_isochronous {n : Nat} (hn : n ≤ UInt32.size) {latency : UInt64}
    {memory : Memory} {world : σ} (h : Reached host (fun c op => c.bus.AttachesClosed op)
      ⟨Bus.empty n latency memory, world, []⟩ c) {handle : Handle} {key : DeviceKey}
    {p : Passthrough} {request : IsoRequest} {now : UInt64} {a : Dispatch}
    (hd : c.bus.openedDevice handle = some (key, .passthrough p))
    (hok : (c.bus.submitIsochronous handle request now c.world).1 = .ok a) :
    ∃ t, a.submission = some t ∧ p.handle = some t.handle ∧ t.id = a.id ∧ t.Carries request := by
  have hsound := h.sound (Bus.lineup_empty n latency memory) fun _ _ hop => hop
  obtain ⟨hostHandle, hp⟩ := (Bus.lists_of_sound hsound).handle_of_openedDevice hd
  have hmax := Bus.numPackets_le_of_ok hok
  have hcall : (c.bus.call host c.world (.submitIsochronous handle request now)).1 =
      .dispatch (.ok a) := congrArg Answer.dispatch hok
  obtain ⟨key', d, hd', start, hsub, -⟩ :=
    Bus.servedBy_of_ok host c.world (h.named (TransferPool.named_ofCapacity hn)) rfl hcall
  obtain ⟨-, rfl⟩ := Prod.mk.inj (Option.some.inj (hd.symm.trans hd'))
  obtain ⟨t, ht, rfl, hid, hcarries⟩ := p.carries_isochronousTransfer hp
    (c.bus.serviceFor (.submitIsochronous handle request now) handle a.id start) hmax
  exact ⟨t, hsub.trans ht, hp, hid, hcarries⟩

/-- Two packets of eight bytes are prepared for the host as the guest asks, into ten bytes. -/
theorem packets_of_cramped_request :
    ∃ t, (plugged.bus.submitIsochronous default .cramped 0 ()).1 = .ok ⟨⟨1⟩, some t⟩ ∧
      t.Carries .cramped := by
  have hok : (plugged.bus.submitIsochronous default .cramped 0 ()).1 = .ok ⟨⟨1⟩, some _⟩ := rfl
  obtain ⟨t, ht, -, -, hcarries⟩ := packets_of_isochronous (by decide) reached_plugged rfl hok
  obtain rfl := Option.some.inj ht
  exact ⟨_, hok, hcarries⟩

/-- The second of these packets ends behind the buffer that the host is given. -/
theorem packets_exceed_buffer :
    Reached .obliging (fun c op => c.bus.AttachesClosed op) blank plugged ∧
      ∃ key p t, plugged.bus.openedDevice default = some (key, .passthrough p) ∧
        (plugged.bus.submitIsochronous default .cramped 0 ()).1 = .ok ⟨⟨1⟩, some t⟩ ∧
        t.packetLengths = [8, 8] ∧ t.buffer.length = 10 ∧ ¬ t.PacketsFit := by
  refine ⟨reached_plugged, _, _, _, rfl, rfl, rfl, rfl, ?_⟩
  rw [HostTransfer.packetsFit_iff]
  decide

end Scene

end VirtualUsb
