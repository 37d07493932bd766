import VirtualUsb.Proofs.Transfer.Finished
import VirtualUsb.Proofs.Transfer.Packets

/-!
# Packet results

A packet entry is read in two ways: before the transfer it is the length to ask for, afterwards the
packed result of the packet. An answer of the host rewrites the entries that it reports and no
others (`IsoRequest.Answered`), so what the guest reads for a packet that was not reported is the
length that it asked for itself (`Scene.packets_of_ended`). Read as a result, a length below 4096
says that the packet brought as many bytes (`IsoRequest.readsAsData_iff`).
-/

namespace VirtualUsb

namespace IsoRequest

/-! ## Entries -/

/-- Whether an entry, read as a packed result, says that its packet was completed with data. -/
def ReadsAsData (entry : UInt16) : Prop :=
  entry.toNat / 4096 = TransferStatus.completed.code.toNat ∧ entry.toNat % 4096 ≠ 0

theorem readsAsData_iff {entry : UInt16} :
    ReadsAsData entry ↔ 0 < entry.toNat ∧ entry.toNat < 4096 := by
  show entry.toNat / 4096 = 0 ∧ entry.toNat % 4096 ≠ 0 ↔ _
  omega

/-- Whether a list holds the entries of a request after an answer with some packet reports. -/
structure Answered (r : IsoRequest) (reports : List PacketReport) (l : List UInt16) : Prop where
  /-- There is one entry for each packet that was asked for. -/
  length : l.length = r.numPackets.toNat
  reported : ∀ i x, reports[i]? = some x → i < r.numPackets.toNat →
    l[i]? = some (packPacket x.status.code x.actualLength)
  /-- The entry of a packet that was not reported is the length asked for. -/
  unreported : ∀ i asked, reports[i]? = none → i < r.numPackets.toNat →
    r.packets[i]? = some asked →
      l[i]? = some asked ∧ (ReadsAsData asked ↔ 0 < asked.toNat ∧ asked.toNat < 4096)

variable (r : IsoRequest) (reports : List PacketReport)

theorem getElem?_entries {i : Nat} (hi : i < r.packetCount) :
    r.entries[i]? = r.packets[i]? := by
  unfold entries
  rw [List.getElem?_take_of_lt hi, Vector.getElem?_toList]

theorem getElem?_withReports {i : Nat} (hi : i < r.packetCount) :
    (r.withReports reports).entries[i]? =
      r.packets[i]?.map fun asked => (reports[i]?.map packReport).getD asked := by
  refine (getElem?_entries (r.withReports reports) hi).trans ?_
  exact Vector.getElem?_mapIdx ..

theorem answered_withReports (hmax : r.numPackets.toNat ≤ maxPackets) :
    r.Answered reports (r.withReports reports).entries := by
  have hcount : r.packetCount = r.numPackets.toNat := Nat.min_eq_left hmax
  refine ⟨?_, fun i x hx hi => ?_, fun i asked hnone hi hasked => ?_⟩
  · rw [length_entries]
    exact hcount
  · have hlt : i < 8 := Nat.lt_of_lt_of_le hi hmax
    rw [getElem?_withReports r reports (hcount ▸ hi), hx, Vector.getElem?_eq_getElem hlt]
    rfl
  · rw [getElem?_withReports r reports (hcount ▸ hi), hnone, hasked]
    exact ⟨rfl, readsAsData_iff⟩

theorem withReports_nil : r.withReports [] = r := by
  unfold withReports
  congr 1
  ext i hi
  rw [Vector.getElem_mapIdx]
  rfl

end IsoRequest

/-! ## Ends -/

/-- The packets that an answer of the host reports: none if it refuses the transfer. -/
def Operation.packetReports {σ : Type} : Operation σ → List PacketReport
  | .complete c => c.packets
  | _ => []

theorem Transfer.iso_endedBy {σ : Type} (t : Transfer) {op : Operation σ} {id : TransferId}
    (hop : op.Answers id) : (t.endedBy op).iso = t.iso.withReports op.packetReports := by
  cases op with
  | complete => rfl
  | fail => exact t.iso.withReports_nil.symm
  | _ => exact hop.elim

namespace Passthrough

variable {p : Passthrough} (v : Service)

theorem iso_expecting (t : Transfer) (endpoint : UInt8) (buffer : GuestBuffer) :
    (expecting t endpoint buffer).iso = t.iso := by
  unfold expecting
  split <;> rfl

theorem awaitsHost_expecting (t : Transfer) (endpoint : UInt8) (buffer : GuestBuffer) :
    Bus.awaitsHost (expecting t endpoint buffer) = Bus.awaitsHost t := by
  unfold expecting
  split <;> rfl

theorem isochronousTransfer_of_closed (hp : p.handle = none) :
    p.isochronousTransfer v = v.finish .noDevice 0 := by
  unfold isochronousTransfer
  rw [hp]

theorem isochronousTransfer_of_open {handle : HostHandle} (hp : p.handle = some handle) :
    (p.isochronousTransfer v).transfer.iso = v.transfer.iso ∧
      Bus.awaitsHost (p.isochronousTransfer v).transfer = Bus.awaitsHost v.transfer := by
  unfold isochronousTransfer
  rw [hp]
  exact ⟨iso_expecting .., awaitsHost_expecting ..⟩

end Passthrough

theorem Bus.isoResult_of_get? {σ : Type} {b : Bus σ} {id : TransferId} {t : Transfer}
    (ht : b.pool.get? id = some t) : b.isoResult id = .ok t.isoResult := by
  unfold Bus.isoResult
  rw [ht]

/-- A request for two packets of eight bytes each, with a buffer for both. -/
def IsoRequest.roomy : IsoRequest := { IsoRequest.cramped with buffer := ⟨0, 16⟩ }

namespace Scene

variable {σ : Type} {host : Host σ} {c : Scene σ}

/-- What a guest reads of an isochronous transfer to a passthrough device in a later scene, as long
as its slot was not given away again; `submitted` is the scene right after the submission. -/
inductive IsoOutcome (host : Host σ) (submitted c : Scene σ) (id : TransferId) (p : Passthrough)
    (request : IsoRequest) (r : IsoResult) : Prop
  /-- The transfer is busy, and no answer of the host has come for it. -/
  | waits (hbusy : r.busy = true)
      (hrun : Reached host (fun _ op => ¬ op.Answers id) submitted c)
  /-- It was ended by the first answer of the host that came for it. -/
  | ended (hidle : r.busy = false) (c₁ : Scene σ) (op : Operation σ)
      (hrun : Reached host (fun _ op => ¬ op.Answers id) submitted c₁) (hop : op.Answers id)
      (hsince : Reached host (fun c op => ¬ c.GivesAway host op id) (c₁.after host op) c)
      (hpackets : request.Answered op.packetReports r.packets)
  /-- It was ended on the spot, as the device holds no handle of the host. -/
  | closed (hidle : r.busy = false) (hp : p.handle = none)
      (hpackets : request.Answered [] r.packets)

/-- **What the guest reads of packets.** Whatever calls were made of a new bus, a guest that has
submitted an isochronous transfer to a passthrough device reads one entry for each packet once the
transfer is not busy, until its slot is given away again. The entries of the packets that the host
reported are the packed reports. Each of the others is still the length that was asked for, which
reads as data that arrived if it is from 1 to 4095. -/
theorem packets_of_ended {n : Nat} (hn : n ≤ UInt32.size) {latency : UInt64} {memory : Memory}
    {world : σ} (h : Reached host (fun _ _ => True) ⟨Bus.empty n latency memory, world, []⟩ c)
    {handle : Handle} {key : DeviceKey} {p : Passthrough} {request : IsoRequest} {now : UInt64}
    {a : Dispatch} (hd : c.bus.openedDevice handle = some (key, .passthrough p))
    (hok : (c.bus.submitIsochronous handle request now c.world).1 = .ok a) {c' : Scene σ}
    (hc' : Reached host (fun c op => ¬ c.GivesAway host op a.id)
      (c.after host (.submitIsochronous handle request now)) c') :
    ∃ r, c'.bus.isoResult a.id = .ok r ∧ r.startFrame = request.startFrame ∧
      IsoOutcome host (c.after host (.submitIsochronous handle request now)) c' a.id p request r := by
  have hmax := Bus.numPackets_le_of_ok hok
  have hnamed := h.named (TransferPool.named_ofCapacity hn)
  have hnamed' := (h.after (.submitIsochronous handle request now) trivial).named
    (TransferPool.named_ofCapacity hn)
  have htarget : (Operation.submitIsochronous handle request now : Operation σ).target? =
    some handle := rfl
  obtain ⟨start, -, hslot⟩ := Bus.servedBy_of_openedDevice host c.world hnamed hd htarget
    (congrArg Answer.dispatch hok)
  -- the slot as the device left it
  generalize hv : c.bus.serviceFor (.submitIsochronous handle request now) handle a.id start = v
    at hslot
  have hiso : v.transfer.iso = request := by rw [← hv]; rfl
  have hbusy : Bus.awaitsHost v.transfer = true := by rw [← hv]; rfl
  change _ = some (p.isochronousTransfer v).transfer at hslot
  cases hp : p.handle with
  | none =>
    rw [Passthrough.isochronousTransfer_of_closed v hp] at hslot
    have hget := hc'.get?_of_idle hnamed' hslot rfl rfl
    refine ⟨_, Bus.isoResult_of_get? hget, congrArg IsoRequest.startFrame hiso, .closed rfl hp ?_⟩
    have hend := request.answered_withReports [] hmax
    rw [request.withReports_nil] at hend
    show request.Answered [] v.transfer.iso.entries
    rw [hiso]
    exact hend
  | some hostHandle =>
    obtain ⟨hiso', hw⟩ := Passthrough.isochronousTransfer_of_open v hp
    rcases hc'.waits_or_ended hnamed' hslot (hw.trans hbusy) with
      ⟨hrun, hget⟩ | ⟨c₁, op, hrun, hop, hsince, hget⟩
    · refine ⟨_, Bus.isoResult_of_get? hget, ?_, .waits ?_ hrun⟩
      · exact congrArg IsoRequest.startFrame (hiso'.trans hiso)
      · exact (Bus.awaitsHost_iff.1 (hw.trans hbusy)).1
    · have hend := (Transfer.iso_endedBy _ hop).trans
        (congrArg (·.withReports op.packetReports) (hiso'.trans hiso))
      refine ⟨_, Bus.isoResult_of_get? hget, ?_,
        .ended (Transfer.busy_endedBy _ hop) c₁ op hrun hop hsince ?_⟩
      · show (Transfer.endedBy _ op).iso.startFrame = _
        rw [hend]
        rfl
      · show request.Answered _ (Transfer.endedBy _ op).iso.entries
        rw [hend]
        exact request.answered_withReports _ hmax

/-! ### Packets that nobody reported -/

/-- A guest has asked for two packets of eight bytes each, with room for both. -/
def streaming : Scene Unit := plugged.after .obliging (.submitIsochronous default .roomy 0)

/-- The host reports an error for the first packet, and nothing for the second. -/
def halfReported : Scene Unit :=
  streaming.after .obliging (.complete
    { id := ⟨1⟩, kind := .isochronous, status := .error, actualLength := 4, buffer := [],
      packets := [⟨8, 4, .error⟩] })

/-- The guest reads the report of the first packet, four bytes and status one. -/
theorem packets_of_halfReported :
    ∃ r, halfReported.bus.isoResult ⟨1⟩ = .ok r ∧ r.packets = [4100, 8] ∧
      ∃ p, IsoOutcome .obliging streaming halfReported ⟨1⟩ p .roomy r := by
  have hplugged : Reached Host.obliging (fun _ _ => True) blank plugged :=
    reached_plugged.mono fun _ _ _ => trivial
  have hrun : Reached Host.obliging (fun c op => ¬ c.GivesAway .obliging op ⟨1⟩) streaming
      halfReported := Reached.first.after _ fun ⟨_, ha, _⟩ => nomatch ha
  have hok : (plugged.bus.submitIsochronous default .roomy 0 ()).1 = .ok ⟨⟨1⟩, some _⟩ := rfl
  obtain ⟨r, hr, -, hend⟩ := packets_of_ended (by decide) hplugged rfl hok hrun
  obtain rfl := Except.ok.inj hr
  exact ⟨_, rfl, rfl, _, hend⟩

/-- If the host refuses the transfer, both packets read as eight bytes that arrived. -/
theorem packets_of_refused_stream :
    Reached .obliging (fun _ _ => True) blank streaming ∧
      streaming.past.accepted.map (·.1) = [.isochronous] ∧
      (streaming.after .obliging (.fail ⟨1⟩ .io)).bus.isoResult ⟨1⟩ =
        .ok ⟨false, .error, 0, [8, 8]⟩ ∧
      ∀ entry ∈ [8, 8], IsoRequest.ReadsAsData entry := by
  refine ⟨(reached_plugged.mono fun _ _ _ => trivial).after _ trivial, rfl, rfl, ?_⟩
  have height : IsoRequest.ReadsAsData 8 := IsoRequest.readsAsData_iff.2 (by decide)
  exact List.forall_mem_cons.2 ⟨height, List.forall_mem_cons.2 ⟨height, nofun⟩⟩

end Scene

end VirtualUsb
