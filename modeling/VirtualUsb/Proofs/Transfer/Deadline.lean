import VirtualUsb.Proofs.Transfer.Admission

/-!
# Scheduled ends

A transfer that an emulated device answers pends from then on (`Bus.pends_of_answered`): no call but
a pump that comes when its time has come can end it or change its slot (`Bus.Pends.call`), and that
pump ends it with the count that the device produced (`Bus.Pends.transferResult_pump`).
-/

namespace VirtualUsb

/-! ## Answers of emulated devices -/

/-- The data stage in a buffer as a device first sees it: zeros if the device is to fill it, and the
guest's bytes if they flow to the device. -/
def GuestBuffer.dataStage (b : GuestBuffer) (m : Memory) (isIn : Bool) : Bytes :=
  if isIn then List.replicate b.len 0 else b.readFrom m

theorem GuestBuffer.length_dataStage (b : GuestBuffer) (m : Memory) (isIn : Bool) :
    (b.dataStage m isIn).length = b.len := by
  cases isIn <;> simp [dataStage]

theorem Service.dataStage_eq (v : Service) (isIn : Bool) (b : GuestBuffer) :
    v.dataStage isIn b = b.dataStage v.memory isIn := rfl

theorem toNat_clampCount_of_lt {n : Nat} (h : n < UInt32.size) : (clampCount n).toNat = n := by
  rw [UInt32.size] at h
  rw [toNat_clampCount]
  omega

namespace Emulated

variable {σ : Type} (d : Emulated σ)

/-- The number of bytes that a control transfer moves. -/
def controlCount (setup : SetupPacket) (buffer : GuestBuffer) (m : Memory) (s : σ) : Nat :=
  let data := (buffer.truncated setup.length.toNat).dataStage m setup.isIn
  let o := (d.serve setup data s).1
  min (o.count.getD 0) o.data.length

/-- The number of bytes that an interrupt transfer moves, if a peripheral answers it. -/
def interruptCount? (endpoint : UInt8) (buffer : GuestBuffer) (m : Memory) (s : σ) : Option Nat :=
  d.peripheral.bind fun p =>
    let data := (buffer.truncated maxTransferLength).dataStage m (isInEndpoint endpoint)
    (p.interrupt endpoint data s).1.1.map fun count => min count data.length

theorem length_data_serve (setup : SetupPacket) (data : Bytes) (s : σ) :
    (d.serve setup data s).1.data.length = data.length := by
  unfold serve serveStandard answered
  repeat' split
  all_goals simp

theorem controlCount_lt (setup : SetupPacket) (buffer : GuestBuffer) (m : Memory) (s : σ) :
    d.controlCount setup buffer m s < UInt32.size := by
  have hlength := setup.length.toNat_lt
  unfold controlCount
  dsimp only
  rw [length_data_serve, GuestBuffer.length_dataStage, UInt32.size]
  show min _ (min _ _) < _
  omega

theorem interruptCount?_lt {endpoint : UInt8} {buffer : GuestBuffer} {m : Memory} {s : σ}
    {n : Nat} (h : d.interruptCount? endpoint buffer m s = some n) : n < UInt32.size := by
  obtain ⟨p, -, h⟩ := Option.bind_eq_some_iff.1 h
  obtain ⟨count, -, rfl⟩ := Option.map_eq_some_iff.1 h
  rw [GuestBuffer.length_dataStage, UInt32.size]
  show min _ (min _ 65535) < _
  omega

section

variable (v : Service) (isIn : Bool) (b : GuestBuffer) (data : Bytes) (count : Nat)

theorem transfer_conclude : (conclude v isIn b data count).transfer =
    { v.transfer with scheduled := some ⟨Time.after v.now v.latency.toNat, .completed,
      clampCount (min count data.length)⟩ } := by
  unfold conclude
  dsimp only
  split <;> rfl

theorem agenda_conclude : (conclude v isIn b data count).agenda = v.agenda.push v.id := by
  unfold conclude
  dsimp only
  split <;> rfl

theorem submission_conclude : (conclude v isIn b data count).submission = v.submission := by
  unfold conclude
  dsimp only
  split <;> rfl

end

/-- A peripheral's answer to an interrupt transfer is concluded like that to a control transfer. -/
theorem interruptTransfer_of_count {v : Service} {endpoint : UInt8} {buffer : GuestBuffer} {s : σ}
    {n : Nat} (h : d.interruptCount? endpoint buffer v.memory s = some n) :
    ∃ g data k, (d.interruptTransfer endpoint buffer v s).1 =
      conclude v (isInEndpoint endpoint) g data k ∧ min k data.length = n := by
  obtain ⟨p, hp, h⟩ := Option.bind_eq_some_iff.1 h
  obtain ⟨k, hk, rfl⟩ := Option.map_eq_some_iff.1 h
  rw [← Service.dataStage_eq] at hk
  unfold interruptTransfer
  rw [hp]
  dsimp only
  rw [hk]
  refine ⟨_, _, k, rfl, ?_⟩
  rw [Bytes.length_overlay, Service.dataStage_eq]

end Emulated

namespace Bus

variable {σ : Type} {b : Bus σ} {id : TransferId} {due : UInt64} {count : UInt32}

/-- Whether a call submits a transfer, at a time, that an emulated device answers with a number of
bytes. -/
inductive Answered (b : Bus σ) (s : σ) : Operation σ → UInt64 → Nat → Prop
  | control {h : Handle} {setup : SetupPacket} {buffer : GuestBuffer} {now : UInt64}
      {key : DeviceKey} {e : Emulated σ} (hd : b.openedDevice h = some (key, .emulated e)) :
    Answered b s (.submitControl h setup buffer now) now (e.controlCount setup buffer b.memory s)
  | interrupt {h : Handle} {endpoint : UInt8} {buffer : GuestBuffer} {now : UInt64}
      {key : DeviceKey} {e : Emulated σ} {n : Nat}
      (hd : b.openedDevice h = some (key, .emulated e))
      (hn : e.interruptCount? endpoint buffer b.memory s = some n) :
    Answered b s (.submitInterrupt h endpoint buffer now) now n

theorem Answered.count_lt {s : σ} {op : Operation σ} {t : UInt64} {n : Nat}
    (h : b.Answered s op t n) : n < UInt32.size := by
  cases h with
  | @control _ setup buffer _ _ e _ => exact e.controlCount_lt setup buffer b.memory s
  | @interrupt _ _ _ _ _ e _ _ hn => exact e.interruptCount?_lt hn

/-- Whether a transfer is busy until its end comes, at a time and with a count. -/
structure Pends (id : TransferId) (due : UInt64) (count : UInt32) (b : Bus σ) : Prop where
  named : b.pool.Named
  slot : ∃ t, b.pool.get? id = some t ∧ t.result = ⟨true, .completed, 0⟩ ∧
    t.scheduled = some ⟨due, .completed, count⟩
  listed : id ∈ b.agenda.pending

theorem Pends.transferResult (h : b.Pends id due count) :
    b.transferResult id = .ok ⟨true, .completed, 0⟩ := by
  obtain ⟨t, ht, hresult, -⟩ := h.slot
  unfold Bus.transferResult
  rw [ht]
  exact congrArg Except.ok hresult

/-! ## The beginning -/

theorem pends_of_dispatch (hn : b.pool.Named) {h : Handle} {key : DeviceKey} {dev : Device σ}
    {serve : Device σ → Service → σ → Device σ × Service × σ} {iso : IsoRequest} {now : UInt64}
    {s : σ} {n : Nat} {d : Dispatch} (hdev : b.openedDevice h = some (key, dev))
    (hid : ∀ d v s, (serve d v s).2.1.id = v.id)
    (hserve : ∀ v, v.memory = b.memory → ∃ isIn g data k,
      (serve dev v s).2.1 = Emulated.conclude v isIn g data k ∧ min k data.length = n)
    (hok : (b.dispatch h now iso serve s).1 = .ok d) :
    d.submission = none ∧ (b.dispatch h now iso serve s).2.1.Pends d.id
      (Time.after now b.latency.toNat) (clampCount n) := by
  rcases dispatch_eq hn (fun _ d _ v s _ => hid d v s) now s with
    ⟨e, he⟩ | ⟨key', dev', old, cursor, r, hdev', hold, -, hr, he⟩
  · rw [he] at hok
    exact nomatch hok
  · obtain ⟨rfl, rfl⟩ := Prod.mk.inj (Option.some.inj (hdev.symm.trans hdev'))
    obtain ⟨isIn, g, data, k, hconclude, rfl⟩ := hserve
      (b.serviceOf { id := old.id, busy := true, owner := some h.location, iso } now) rfl
    rw [← hr] at hconclude
    rw [he] at hok ⊢
    obtain rfl := Except.ok.inj hok
    have hget := TransferPool.get?_set_of_get? hold r.2.1.transfer old.id
    rw [if_pos rfl] at hget
    refine ⟨?_, ?_, ⟨_, hget, ?_, ?_⟩, ?_⟩
    · show r.2.1.submission = none
      rw [hconclude, Emulated.submission_conclude]
      rfl
    · refine hn.set ?_
      rw [hconclude, Emulated.transfer_conclude]
      rfl
    · rw [hconclude, Emulated.transfer_conclude]
      rfl
    · rw [hconclude, Emulated.transfer_conclude]
      rfl
    · show old.id ∈ r.2.1.agenda.pending
      rw [hconclude, Emulated.agenda_conclude]
      exact List.mem_append_right _ (List.mem_singleton_self _)

theorem pends_of_answered (host : Host σ) {s : σ} {op : Operation σ} {t : UInt64} {n : Nat}
    {d : Dispatch} (hn : b.pool.Named) (h : b.Answered s op t n)
    (hok : (b.call host s op).1 = .dispatch (.ok d)) :
    d.submission = none ∧ (b.call host s op).2.1.Pends d.id (Time.after t b.latency.toNat)
      (clampCount n) := by
  cases h with
  | @control h setup buffer _ key e hd =>
    refine pends_of_dispatch hn hd (fun d v s => ?_) (fun v hv => ?_) (Answer.dispatch.inj hok)
    · exact (d.follows_controlTransfer v s setup buffer fun _ _ _ => trivial).id_eq
    · refine ⟨setup.isIn, _, _, _, rfl, ?_⟩
      rw [Emulated.controlCount, ← hv]
      rfl
  | @interrupt h endpoint buffer _ key e n hd hcount =>
    refine pends_of_dispatch hn hd (fun d v s => ?_) (fun v hv => ?_) (Answer.dispatch.inj hok)
    · exact (d.follows_interruptTransfer v s endpoint buffer fun _ _ _ => trivial).id_eq
    · rw [← hv] at hcount
      exact ⟨isInEndpoint endpoint, e.interruptTransfer_of_count hcount⟩

/-! ## The wait -/

theorem Pends.pump {now : UInt64} (h : b.Pends id due count) (hnow : now < due) :
    (b.pump now).2.Pends id due count := by
  obtain ⟨t, ht, hresult, hs⟩ := h.slot
  have hswept := Agenda.swept_pump b.agenda b.pool now
  refine ⟨hswept.named h.named, ⟨t, ?_, hresult, hs⟩, ?_⟩
  · refine (hswept.get? id).trans ?_
    rw [ht, Option.map_some, Transfer.settle_of_lt hs hnow, ite_self]
  · show id ∈ (b.agenda.pump b.pool now).agenda.pending
    rw [hswept.pending]
    exact List.mem_filter.2 ⟨h.listed, Agenda.waits_iff.2 ⟨t, _, ht, hs, hnow⟩⟩

/-- An answer of the host, even one that names this slot, is for one that has no scheduled end. -/
theorem Pends.of_effect (h : b.Pends id due count) {op : Operation σ} {a : Answer} {b' : Bus σ}
    (he : b.Effect op a b') (ha : Past.acceptedBy (op, a) = none)
    (hop : ∀ now, op = .pump now → now < due) : b'.Pends id due count := by
  obtain ⟨t, ht, hresult, hs⟩ := h.slot
  have keep {p : TransferPool} (hget : p.get? id = b.pool.get? id)
      (hp : b'.pool = p) (hagenda : b'.agenda = b.agenda) : b'.Pends id due count := by
    refine ⟨he.named ha h.named, ⟨t, ?_, hresult, hs⟩, hagenda ▸ h.listed⟩
    rw [hp, hget, ht]
  have other {j : TransferId} {old u : Transfer} (hold : b.pool.get? j = some old)
      (hw : awaitsHost old = true) : (b.pool.set j u).get? id = b.pool.get? id := by
    rw [TransferPool.get?_set_of_get? hold]
    apply if_neg
    rintro rfl
    obtain rfl := Option.some.inj (hold.symm.trans ht)
    exact nomatch (awaitsHost_iff.1 hw).2.symm.trans hs
  cases he with
  | quiet _ hq | attached hq => exact keep rfl hq.pool hq.agenda
  | refused | stored => exact keep rfl rfl rfl
  | accepted hop => exact nomatch (Past.acceptedBy_of_ok hop).symm.trans ha
  | reported hold hw hq => exact keep (other hold hw) hq.pool hq.agenda
  | failed hold hw => exact keep (other hold hw) rfl rfl
  | pumped now => exact h.pump (hop now rfl)

theorem Pends.call (h : b.Pends id due count) (host : Host σ) (s : σ) {op : Operation σ}
    (hop : ∀ now, op = .pump now → now < due) : (b.call host s op).2.1.Pends id due count := by
  rcases effect_or_admitted host s h.named op with ⟨he, hnone⟩ | ⟨kind, d, -, hadm⟩
  · exact h.of_effect he hnone hop
  · obtain ⟨t, ht, hresult, hs⟩ := h.slot
    -- an idle slot was claimed, and this one is busy
    have hne : id ≠ d.id := by
      rintro rfl
      obtain ⟨old, hold, hidle⟩ := hadm.idle
      obtain rfl := Option.some.inj (hold.symm.trans ht)
      exact nomatch hidle.symm.trans (congrArg TransferResult.busy hresult)
    exact ⟨hadm.named, ⟨t, (hadm.other id hne).trans ht, hresult, hs⟩,
      hadm.pending.subset h.listed⟩

/-! ## The end -/

/-- The first pump when its time has come ends a transfer that pends. -/
theorem Pends.transferResult_pump {now : UInt64} (h : b.Pends id due count) (hnow : due ≤ now) :
    (b.pump now).2.transferResult id = .ok ⟨false, .completed, count⟩ := by
  obtain ⟨t, ht, -, hs⟩ := h.slot
  have hdue : ¬ now < due := UInt64.not_lt.2 hnow
  have hget := (Agenda.swept_pump b.agenda b.pool now).get? id
  rw [ht, Option.map_some, if_pos h.listed, Transfer.settle_of_due hs hdue] at hget
  unfold Bus.transferResult
  rw [show (b.pump now).2.pool.get? id = _ from hget]
  rfl

end Bus

end VirtualUsb
