import VirtualUsb.Proofs.Transfer.Landing
import VirtualUsb.Proofs.Transfer.Submission

/-!
# The data stage of a control transfer

A setup packet says how long its data stage is to be, and the guest passes a buffer for it. Neither
kind of built-in device goes beyond the buffer, but only an emulated device keeps to the length in
the setup packet as well (`Bus.EmulatedStage`). A passthrough device puts the length of the buffer
into the packet that it prepares for the host (`Bus.PassthroughStage`), so the real device may be
asked for more than the guest asked for (`Scene.stage_of_control`).
-/

namespace VirtualUsb

/-! ## Changes of memory -/

/-- Whether memory changed only in a buffer, and not at all unless data flows to the guest. -/
structure Memory.ChangedIn (m m' : Memory) (isIn : Bool) (g : GuestBuffer) : Prop where
  size : m'.size = m.size
  within : ∀ i, m'.byteAt i ≠ m.byteAt i → g.addr.toNat ≤ i ∧ i < g.addr.toNat + g.len
  out : isIn = false → m' = m

namespace Memory.ChangedIn

variable (m : Memory) (isIn : Bool) (g : GuestBuffer)

theorem refl : m.ChangedIn m isIn g := ⟨rfl, fun _ hi => absurd rfl hi, fun _ => rfl⟩

theorem writeTo (data : Bytes) : m.ChangedIn (g.writeTo m data) true g := by
  refine ⟨g.size_writeTo m data, fun i hi => ?_, fun h => nomatch h⟩
  unfold GuestBuffer.writeTo at hi
  rw [Memory.byteAt_write] at hi
  split at hi
  · rename_i hin
    have hlen := List.length_take_le g.len data
    omega
  · exact absurd rfl hi

variable {m isIn g}

theorem deliverData {t : Transfer} {x : Completion}
    (h : ∀ d, t.destination x.kind = some d → isIn = true ∧ d = g) :
    m.ChangedIn (t.deliverData x m) isIn g := by
  cases hd : t.destination x.kind with
  | none =>
    rw [Transfer.deliverData_of_none hd]
    exact refl m isIn g
  | some d =>
    obtain ⟨rfl, rfl⟩ := h d hd
    unfold Transfer.deliverData
    rw [hd]
    exact writeTo m d x.data

end Memory.ChangedIn

/-! ## Emulated devices -/

namespace Emulated

theorem memory_conclude (v : Service) (isIn : Bool) (g : GuestBuffer) (data : Bytes)
    (count : Nat) :
    v.memory.ChangedIn (conclude v isIn g data count).memory isIn g := by
  cases isIn with
  | true => exact .writeTo v.memory g _
  | false => exact .refl v.memory false g

end Emulated

/-- Whether a submission let an emulated device serve a control request with just the bytes of a
buffer as its data stage. -/
structure Bus.EmulatedStage {σ : Type} (b : Bus σ) (s : σ) (key : DeviceKey) (e : Emulated σ)
    (setup : SetupPacket) (g : GuestBuffer) (id : TransferId) (b' : Bus σ) (s' : σ) : Prop where
  length : (g.dataStage b.memory setup.isIn).length = g.len
  /-- Device and world are as the request leaves them if it is served with this data stage. -/
  device : b'.roster.get? key =
    some (.emulated (e.serve setup (g.dataStage b.memory setup.isIn) s).1.device)
  world : s' = (e.serve setup (g.dataStage b.memory setup.isIn) s).2
  /-- The guest will read the device's count, or the length of the buffer if that is less. -/
  count : ∃ t expiry, b'.pool.get? id = some t ∧ t.scheduled = some expiry ∧ expiry.count.toNat =
    min ((e.serve setup (g.dataStage b.memory setup.isIn) s).1.count.getD 0) g.len
  memory : b.memory.ChangedIn b'.memory setup.isIn g

/-! ## Passthrough devices -/

namespace Passthrough

theorem take_controlPayload (setup : SetupPacket) (data : Bytes) :
    (controlPayload setup data).take SetupPacket.wireSize =
      { setup with length := UInt16.ofNat data.length }.toBytes := rfl

theorem drop_controlPayload (setup : SetupPacket) (data : Bytes) :
    (controlPayload setup data).drop SetupPacket.wireSize = data := rfl

end Passthrough

/-- Whether a transfer asks the host for a control request with just the bytes of a buffer as its
data stage, the setup packet changed to say so. -/
structure HostTransfer.Asks (t : HostTransfer) (setup : SetupPacket) (g : GuestBuffer)
    (m : Memory) : Prop where
  kind : t.kind = .control
  packet : ∃ length : UInt16, length.toNat = g.len ∧
    SetupPacket.ofBytes (t.buffer.take SetupPacket.wireSize) = some { setup with length }
  data : t.buffer.drop SetupPacket.wireSize = g.dataStage m setup.isIn
  length : t.buffer.length = SetupPacket.wireSize + g.len

theorem HostTransfer.asks_of_controlPayload {t : HostTransfer} {setup : SetupPacket}
    {g : GuestBuffer} {m : Memory} (hkind : t.kind = .control) (hlen : g.len ≤ maxTransferLength)
    (hbuffer : t.buffer = Passthrough.controlPayload setup (g.dataStage m setup.isIn)) :
    t.Asks setup g m := by
  have hdata := g.length_dataStage m setup.isIn
  refine ⟨hkind, ⟨UInt16.ofNat g.len, ?_, ?_⟩, ?_, ?_⟩
  · exact UInt16.toNat_ofNat_of_lt' (Nat.lt_succ_of_le hlen)
  · rw [hbuffer, Passthrough.take_controlPayload, hdata, SetupPacket.ofBytes_toBytes]
  · rw [hbuffer, Passthrough.drop_controlPayload]
  · rw [hbuffer, Passthrough.controlPayload, List.length_append, hdata, SetupPacket.length_toBytes]

namespace Passthrough

variable {p : Passthrough} (setup : SetupPacket) (buffer : GuestBuffer) (v : Service)

theorem memory_controlTransfer : (p.controlTransfer setup buffer v).memory = v.memory := by
  unfold controlTransfer
  split <;> rfl

variable {handle : HostHandle} (hp : p.handle = some handle)
include hp

theorem asks_controlTransfer :
    ∃ t, (p.controlTransfer setup buffer v).submission = some t ∧ t.id = v.id ∧ t.handle = handle ∧
      t.Asks setup (buffer.truncated maxTransferLength) v.memory := by
  unfold controlTransfer
  rw [hp]
  exact ⟨_, rfl, rfl, rfl, HostTransfer.asks_of_controlPayload rfl (Nat.min_le_right ..) rfl⟩

theorem awaitsHost_controlTransfer :
    Bus.awaitsHost (p.controlTransfer setup buffer v).transfer = Bus.awaitsHost v.transfer := by
  unfold controlTransfer
  rw [hp]
  rfl

/-- A control transfer expects data in the buffer that it asks for, if data flows to the guest. -/
theorem destination_controlTransfer (hv : v.transfer.endpointDestination = none)
    {kind : TransferKind} {d : GuestBuffer}
    (hd : (p.controlTransfer setup buffer v).transfer.destination kind = some d) :
    setup.isIn = true ∧ d = buffer.truncated maxTransferLength := by
  unfold controlTransfer at hd
  rw [hp] at hd
  cases kind with
  | control =>
    change (if setup.isIn then _ else none) = some d at hd
    split at hd
    · rename_i hin
      exact ⟨hin, (Option.some.inj hd).symm⟩
    · exact nomatch hd
  | interrupt | isochronous => exact nomatch hv.symm.trans hd

end Passthrough

/-- Whether a control submission to a passthrough device asks the host for just the bytes of a
buffer, and reports for it are stored nowhere else, as long as it waits. -/
structure Scene.PassthroughStage {σ : Type} (host : Host σ) (c c' : Scene σ) (handle : HostHandle)
    (setup : SetupPacket) (g : GuestBuffer) (a : Dispatch) : Prop where
  submission : ∃ t, a.submission = some t ∧ t.id = a.id ∧ t.handle = handle ∧
    t.Asks setup g c.bus.memory
  memory : c'.bus.memory = c.bus.memory
  reports : ∀ c₁, Reached host (fun _ op => ¬ op.Answers a.id) c' c₁ → ∀ x : Completion,
    x.id = a.id →
      c₁.bus.memory.ChangedIn (c₁.bus.complete host x c₁.world).1.memory setup.isIn g

/-! ## Submissions -/

namespace Scene

variable {σ : Type} {host : Host σ} {c : Scene σ} {handle : Handle} {key : DeviceKey}
  {setup : SetupPacket} {buffer : GuestBuffer} {now : UInt64} {a : Dispatch}

/-- An emulated device serves the request in as many bytes as the request asks for, if the buffer
has them. -/
theorem emulatedStage_of_ok (hn : c.bus.pool.Named) {e : Emulated σ}
    (hd : c.bus.openedDevice handle = some (key, .emulated e))
    (hok : (c.bus.submitControl handle setup buffer now c.world).1 = .ok a) :
    c.bus.EmulatedStage c.world key e setup (buffer.truncated setup.length.toNat) a.id
      (c.after host (.submitControl handle setup buffer now)).bus
      (c.after host (.submitControl handle setup buffer now)).world := by
  have htarget : (Operation.submitControl handle setup buffer now : Operation σ).target? =
    some handle := rfl
  obtain ⟨old, start, cursor, r, hold, hr, -, hcall⟩ :=
    Bus.call_of_openedDevice host c.world hn hd htarget (congrArg Answer.dispatch hok)
  generalize hv : c.bus.serviceFor (.submitControl handle setup buffer now) handle a.id start = v
    at hr
  generalize hg : buffer.truncated setup.length.toNat = g
  generalize ho : e.serve setup (g.dataStage c.bus.memory setup.isIn) c.world = o
  have hlen : (g.dataStage c.bus.memory setup.isIn).length = g.len := g.length_dataStage ..
  have hdata : o.1.data.length = g.len := by
    rw [← ho, Emulated.length_data_serve]
    exact hlen
  have hr : r = (.emulated o.1.device,
      Emulated.conclude v setup.isIn g o.1.data (o.1.count.getD 0), o.2) := by
    rw [hr, ← ho, ← hg, ← hv]
    rfl
  have hbus : (c.after host (.submitControl handle setup buffer now)).bus = _ :=
    congrArg Prod.fst hcall
  have hworld : (c.after host (.submitControl handle setup buffer now)).world = _ :=
    congrArg Prod.snd hcall
  rw [hbus, hworld, hr]
  refine ⟨hlen, ?_, ?_, ?_, ?_⟩
  · rw [ho]
    exact (Roster.get?_set_of_get? (Bus.roster_of_openedDevice hd) _ _).trans (if_pos rfl)
  · rw [ho]
  · have hslot := (TransferPool.get?_set_of_get? hold
      (Emulated.conclude v setup.isIn g o.1.data (o.1.count.getD 0)).transfer a.id).trans (if_pos rfl)
    refine ⟨_, _, hslot, congrArg Transfer.scheduled (Emulated.transfer_conclude ..), ?_⟩
    rw [ho]
    show (clampCount (min (o.1.count.getD 0) o.1.data.length)).toNat = _
    have hsmall : g.len ≤ 65535 := by
      rw [← hg]
      exact Nat.le_trans (Nat.min_le_right ..) (Nat.le_of_lt_succ setup.length.toNat_lt)
    rw [hdata, toNat_clampCount_of_lt (by rw [UInt32.size]; omega)]
  · have hmemory : v.memory = c.bus.memory := by rw [← hv]; rfl
    rw [← hmemory]
    exact Emulated.memory_conclude ..

theorem passthroughStage_of_ok (hn : c.bus.pool.Named) {p : Passthrough} {hostHandle : HostHandle}
    (hd : c.bus.openedDevice handle = some (key, .passthrough p)) (hp : p.handle = some hostHandle)
    (hok : (c.bus.submitControl handle setup buffer now c.world).1 = .ok a) :
    c.PassthroughStage host (c.after host (.submitControl handle setup buffer now)) hostHandle setup
      (buffer.truncated maxTransferLength) a := by
  have htarget : (Operation.submitControl handle setup buffer now : Operation σ).target? =
    some handle := rfl
  obtain ⟨old, start, cursor, r, hold, hr, hsub, hcall⟩ :=
    Bus.call_of_openedDevice host c.world hn hd htarget (congrArg Answer.dispatch hok)
  generalize hv : c.bus.serviceFor (.submitControl handle setup buffer now) handle a.id start = v
    at hr
  have hmemory : v.memory = c.bus.memory := by rw [← hv]; rfl
  have hbus : (c.after host (.submitControl handle setup buffer now)).bus = _ :=
    congrArg Prod.fst hcall
  obtain rfl : r = (.passthrough p, p.controlTransfer setup buffer v, c.world) := hr
  obtain ⟨t, ht, hid, hhandle, hasks⟩ := p.asks_controlTransfer setup buffer v hp
  refine ⟨⟨t, hsub.trans ht, hid.trans (by rw [← hv]; rfl), hhandle, hmemory ▸ hasks⟩, ?_, ?_⟩
  · rw [hbus]
    exact (p.memory_controlTransfer setup buffer v).trans hmemory
  · intro c₁ hc₁ x hx
    have hstep : Reached host (fun _ _ => True) c
        (c.after host (.submitControl handle setup buffer now)) := Reached.first.after _ trivial
    have hslot : (c.after host (.submitControl handle setup buffer now)).bus.pool.get? a.id =
        some (p.controlTransfer setup buffer v).transfer := by
      rw [hbus]
      exact (TransferPool.get?_set_of_get? hold _ a.id).trans (if_pos rfl)
    have hw : Bus.awaitsHost (p.controlTransfer setup buffer v).transfer = true := by
      rw [p.awaitsHost_controlTransfer setup buffer v hp, ← hv]
      rfl
    have hrun : Reached host (fun _ op => True ∧ ¬ op.Answers a.id)
        (c.after host (.submitControl handle setup buffer now)) c₁ :=
      hc₁.mono fun _ _ ho => ⟨trivial, ho⟩
    have hwaits := hrun.get?_of_awaitsHost (hstep.named hn) hslot hw
    rw [Bus.memory_complete_of_awaitsHost host c₁.world (hx ▸ hwaits) hw]
    refine .deliverData fun d hdest => ?_
    exact p.destination_controlTransfer setup buffer v hp (by rw [← hv]; rfl) hdest

/-- **What control requests move.** Whatever calls were made of a new bus, a control request for an
emulated device is served in as many bytes as its setup packet asks for, if the buffer that the
guest passed has them. A passthrough device asks the host for the whole buffer, up to 65535 bytes.
No byte behind these is ever written, and these are the same just if the buffer is not longer than
the setup packet says or the packet asks for 65535 bytes. -/
theorem stage_of_control {n : Nat} (hn : n ≤ UInt32.size) {latency : UInt64} {memory : Memory}
    {world : σ} (h : Reached host (fun _ _ => True) ⟨Bus.empty n latency memory, world, []⟩ c)
    (hok : (c.bus.submitControl handle setup buffer now c.world).1 = .ok a) :
    (∀ key e, c.bus.openedDevice handle = some (key, .emulated e) →
      c.bus.EmulatedStage c.world key e setup (buffer.truncated setup.length.toNat) a.id
        (c.after host (.submitControl handle setup buffer now)).bus
        (c.after host (.submitControl handle setup buffer now)).world) ∧
    (∀ key p hostHandle, c.bus.openedDevice handle = some (key, .passthrough p) →
      p.handle = some hostHandle →
        c.PassthroughStage host (c.after host (.submitControl handle setup buffer now)) hostHandle
          setup (buffer.truncated maxTransferLength) a) ∧
    (buffer.truncated setup.length.toNat).len ≤ (buffer.truncated maxTransferLength).len ∧
    (buffer.truncated setup.length.toNat = buffer.truncated maxTransferLength ↔
      buffer.len ≤ setup.length.toNat ∨ setup.length.toNat = maxTransferLength) := by
  have hnamed := h.named (TransferPool.named_ofCapacity hn)
  have hsetup := setup.length.toNat_lt
  refine ⟨fun key e hd => emulatedStage_of_ok hnamed hd hok,
    fun key p hostHandle hd hp => passthroughStage_of_ok hnamed hd hp hok, ?_, ?_⟩
  · show min _ _ ≤ min _ 65535
    omega
  · simp only [GuestBuffer.truncated, GuestBuffer.mk.injEq, true_and, maxTransferLength]
    omega

/-! ### Three bytes into a buffer of eight -/

/-- A request for the first three bytes of the device descriptor. -/
def threeBytes : SetupPacket :=
  { requestType := 0x80, request := 6, value := 0x100, length := 3 }

/-- A bus with an emulated device, which is open. -/
def emulating : Scene Unit :=
  (blank.after .none (.attach (.emulated (.ofDescriptor {} default)))).after .none
    (.openRecord default)

theorem reached_emulating : Reached Host.none (fun _ _ => True) blank emulating :=
  (Reached.first.after _ trivial).after _ trivial

/-- An emulated device serves the request in three bytes; of a real one eight are asked for. -/
theorem stage_of_threeBytes :
    (∃ key e, emulating.bus.EmulatedStage () key e threeBytes ⟨2, 3⟩ ⟨1⟩
      (emulating.after .none (.submitControl default threeBytes ⟨2, 8⟩ 0)).bus ()) ∧
      ∃ a, (plugged.bus.submitControl default threeBytes ⟨2, 8⟩ 0 ()).1 = .ok a ∧
        plugged.PassthroughStage .obliging
          (plugged.after .obliging (.submitControl default threeBytes ⟨2, 8⟩ 0)) 1 threeBytes ⟨2, 8⟩
          a := by
  have hplugged : Reached Host.obliging (fun _ _ => True) blank plugged :=
    reached_plugged.mono fun _ _ _ => trivial
  have hemulated : (emulating.bus.submitControl default threeBytes ⟨2, 8⟩ 0 ()).1 =
    .ok ⟨⟨1⟩, none⟩ := rfl
  have hpassed : (plugged.bus.submitControl default threeBytes ⟨2, 8⟩ 0 ()).1 =
    .ok ⟨⟨1⟩, some _⟩ := rfl
  exact ⟨⟨_, _, (stage_of_control (by decide) reached_emulating hemulated).1 _ _ rfl⟩, _, hpassed,
    (stage_of_control (by decide) hplugged hpassed).2.1 _ _ _ rfl rfl⟩

/-- The packet for the host says eight, and if the real device sends as many, all of them reach the
guest, which asked for three. -/
theorem passthrough_exceeds_request :
    Reached .obliging (fun c op => c.bus.AttachesClosed op) blank plugged ∧
      threeBytes.length = 3 ∧
      ∃ t, (plugged.bus.submitControl default threeBytes ⟨2, 8⟩ 0 ()).1 = .ok ⟨⟨1⟩, some t⟩ ∧
        SetupPacket.ofBytes (t.buffer.take SetupPacket.wireSize) =
          some { threeBytes with length := 8 } ∧
        ((plugged.after .obliging (.submitControl default threeBytes ⟨2, 8⟩ 0)).after .obliging
          (.complete ⟨⟨1⟩, .control, .completed, 8, t.buffer.take 8 ++ [1, 2, 3, 4, 5, 6, 7, 8],
            []⟩)).bus.memory.bytes = #[0, 0, 1, 2, 3, 4, 5, 6, 7, 8, 0, 0, 0, 0, 0, 0] :=
  ⟨reached_plugged, rfl, _, rfl, rfl, rfl⟩

end Scene

end VirtualUsb
