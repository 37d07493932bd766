import VirtualUsb.Proofs.Transfer.Submission

/-!
# Who releases a busy slot

On a bus with built-in devices a busy slot has a scheduled end, or the host has its transfer and is
yet to answer, or an emulated device left an interrupt or isochronous transfer open
(`Scene.fate_of_reached`). Pumps and answers release the first two, whatever has become of the
device. Nothing in the bus releases the last: it stays busy after its device was closed and taken
off the bus.
-/

namespace VirtualUsb

/-- Whether a call brings no device that is not built in. -/
def Operation.BringsBuiltIn {σ : Type} : Operation σ → Prop
  | .attach d => d.IsBuiltIn
  | _ => True

/-! ## Scheduled ends -/

theorem Served.scheduled_of_idle {σ : Type} {kind : TransferKind} {b : Bus σ} {id : TransferId}
    {owner : Option Location} {iso : IsoRequest} {now : UInt64} {v : Service}
    (h : Served kind (b.serviceOf { id, busy := true, owner, iso } now) v)
    (hidle : v.transfer.busy = false) : v.transfer.scheduled = none := (h.tidy.idle hidle).1

namespace Bus

variable {σ : Type} {b b' : Bus σ} {op : Operation σ} {a : Answer}

/-- Whether just those transfers stand on the agenda that have a scheduled end, all of them busy, on
a bus whose slots are named and whose devices are built in. -/
structure Posted (b : Bus σ) : Prop where
  named : b.pool.Named
  roster : b.roster.AllBuiltIn
  agenda : b.agenda.Lists b.pool
  idle : ∀ id t, b.pool.get? id = some t → t.busy = false → t.scheduled = none

theorem posted_empty {n : Nat} (h : n ≤ UInt32.size) (latency : UInt64) (memory : Memory) :
    (empty n latency memory : Bus σ).Posted := by
  refine ⟨TransferPool.named_ofCapacity h, fun _ _ hd => (nomatch hd), .ofCapacity n, ?_⟩
  intro id t ht _
  obtain ⟨id', rfl⟩ := TransferPool.get?_ofCapacity ht
  rfl

/-- Ending a transfer that waits for the host leaves the agenda right. -/
theorem Posted.end_waiting (h : b.Posted) {id : TransferId} {t u : Transfer}
    (ht : b.pool.get? id = some t) (hw : awaitsHost t = true) (hu : u.scheduled = t.scheduled) :
    b.agenda.Lists (b.pool.set id u) ∧
      ∀ j t', (b.pool.set id u).get? j = some t' → t'.busy = false → t'.scheduled = none := by
  have hs := (awaitsHost_iff.1 hw).2
  refine ⟨h.agenda.set ht hs (hu.trans hs), fun j t' ht' hidle => ?_⟩
  rw [TransferPool.get?_set_of_get? ht] at ht'
  split at ht'
  · obtain rfl := Option.some.inj ht'
    exact hu.trans hs
  · exact h.idle j t' ht' hidle

theorem Posted.accepted (h : b.Posted) {kind : TransferKind} {d : Dispatch}
    (hd : Accepted kind b d b') : b'.Posted := by
  obtain ⟨old, hold, hidle⟩ := hd.idle
  have hnew : d.id ∉ b.agenda.pending := by
    rw [h.agenda.mem_iff_of_get? hold, Transfer.isScheduled_eq_false.2 (h.idle d.id old hold hidle)]
    exact Bool.false_ne_true
  refine ⟨hd.named, h.roster.of_outlives hd.roster, hd.lists h.agenda hnew, fun id t ht hbusy => ?_⟩
  by_cases hid : id = d.id
  · subst hid
    obtain ⟨owner, iso, now, v, hv, -, -, hget⟩ := hd.served
    obtain rfl := Option.some.inj (hget.symm.trans ht)
    exact hv.scheduled_of_idle hbusy
  · exact h.idle id t ((hd.other id hid).symm.trans ht) hbusy

theorem Posted.pump (h : b.Posted) (now : UInt64) : (b.pump now).2.Posted := by
  have hswept := Agenda.swept_pump b.agenda b.pool now
  refine ⟨hswept.named h.named, h.roster, h.agenda.pump hswept, fun id t ht hidle => ?_⟩
  obtain ⟨old, hold, rfl⟩ := Option.map_eq_some_iff.1 ((hswept.get? id).symm.trans ht)
  cases hs : old.scheduled with
  | none =>
    rw [Transfer.settle_of_none hs, ite_self]
    exact hs
  | some e =>
    have hlisted : id ∈ b.agenda.pending := by
      rw [h.agenda.mem_iff_of_get? hold, Transfer.isScheduled, hs]
      rfl
    rw [if_pos hlisted] at hidle ⊢
    by_cases hdue : now < e.dueAt
    · rw [Transfer.settle_of_lt hs hdue] at hidle
      exact absurd (hs.symm.trans (h.idle id old hold hidle)) (Option.some_ne_none e)
    · rw [Transfer.settle_of_due hs hdue]
      rfl

theorem Posted.of_effect (h : b.Posted) (he : b.Effect op a b') (hop : op.BringsBuiltIn) :
    b'.Posted := by
  cases he with
  | quiet _ hq =>
    refine ⟨hq.pool ▸ h.named, h.roster.of_outlives hq.roster, ?_, hq.pool ▸ h.idle⟩
    rw [hq.agenda, hq.pool]
    exact h.agenda
  | attached hq =>
    refine ⟨hq.pool ▸ h.named, (h.roster.enroll hop).of_outlives hq.roster, ?_, hq.pool ▸ h.idle⟩
    rw [hq.agenda, hq.pool]
    exact h.agenda
  | refused => exact h
  | accepted _ hd => exact h.accepted hd
  | @reported x t _ ht hw hq =>
    obtain ⟨hlists, hidle⟩ := h.end_waiting (u := t.deliver x) ht hw
      (Transfer.scheduled_clearDestination x.kind)
    have hnamed : (b.pool.set x.id (t.deliver x)).Named :=
      h.named.set ((Transfer.id_clearDestination x.kind).trans (h.named.id_eq ht))
    refine ⟨hq.pool ▸ hnamed, h.roster.of_outlives hq.roster, ?_, hq.pool ▸ hidle⟩
    rw [hq.agenda, hq.pool]
    exact hlists
  | @failed id e t ht hw =>
    obtain ⟨hlists, hidle⟩ := h.end_waiting (u := t.finish (.ofHost e) 0) ht hw
      (awaitsHost_iff.1 hw).2.symm
    exact ⟨h.named.set (show t.id = id from h.named.id_eq ht), h.roster, hlists, hidle⟩
  | pumped now => exact h.pump now
  | stored => exact ⟨h.named, h.roster, h.agenda, h.idle⟩

theorem Posted.call (h : b.Posted) (host : Host σ) (s : σ) (hop : op.BringsBuiltIn) :
    (b.call host s op).2.1.Posted := h.of_effect (effect_call host s h.named h.roster op) hop

end Bus

theorem Scene.Reached.posted {σ : Type} {host : Host σ} {first c : Scene σ}
    (h : Reached host (fun _ op => op.BringsBuiltIn) first c) (h0 : first.bus.Posted) :
    c.bus.Posted :=
  h.invariant (P := fun c => c.bus.Posted) h0 fun c _ hc hop => hc.call host c.world hop

/-! ## Transfers left open -/

/-- Whether a transfer was prepared for the host or has ended. -/
def Service.IsSettled (v : Service) : Prop :=
  (∃ x, v.submission = some x) ∨ v.transfer.busy = false

namespace Passthrough

variable (p : Passthrough) (v : Service)

theorem isSettled_controlTransfer (setup : SetupPacket) (buffer : GuestBuffer) :
    (p.controlTransfer setup buffer v).IsSettled := by
  unfold controlTransfer
  split
  · exact .inr rfl
  · exact .inl ⟨_, rfl⟩

theorem isSettled_interruptTransfer (endpoint : UInt8) (buffer : GuestBuffer) :
    (p.interruptTransfer endpoint buffer v).IsSettled := by
  unfold interruptTransfer
  split
  · exact .inr rfl
  · exact .inl ⟨_, rfl⟩

theorem isSettled_isochronousTransfer : (p.isochronousTransfer v).IsSettled := by
  unfold isochronousTransfer
  split
  · exact .inr rfl
  · exact .inl ⟨_, rfl⟩

end Passthrough

theorem Emulated.isScheduled_controlTransfer {σ : Type} (e : Emulated σ) (setup : SetupPacket)
    (buffer : GuestBuffer) (v : Service) (s : σ) :
    (e.controlTransfer setup buffer v s).2.1.transfer.isScheduled = true := by
  unfold controlTransfer
  dsimp only
  rw [transfer_conclude]
  rfl

namespace Operation

variable {σ : Type} {op : Operation σ} {h : Handle} (hop : op.target? = some h)
include hop

/-- A passthrough device prepares a transfer for the host or ends it on the spot. -/
theorem isSettled_serve (p : Passthrough) (v : Service) (s : σ) :
    (op.serve (.passthrough p) v s).2.1.IsSettled := by
  cases op with
  | submitControl _ setup buffer => exact p.isSettled_controlTransfer v setup buffer
  | submitInterrupt _ endpoint buffer => exact p.isSettled_interruptTransfer v endpoint buffer
  | submitIsochronous => exact p.isSettled_isochronousTransfer v
  | _ => exact nomatch hop

/-- Only an emulated device leaves a transfer open that the host gets nothing of, and never a
control transfer. -/
theorem emulated_of_left_open {d : Device σ} (hd : d.IsBuiltIn) {v : Service} {s : σ}
    (hsub : (op.serve d v s).2.1.submission = none)
    (hw : Bus.awaitsHost (op.serve d v s).2.1.transfer = true) :
    (∃ e, d = .emulated e) ∧ (op.submits = some .interrupt ∨ op.submits = some .isochronous) := by
  obtain ⟨hbusy, hs⟩ := Bus.awaitsHost_iff.1 hw
  cases d with
  | emulated e =>
    refine ⟨⟨e, rfl⟩, ?_⟩
    cases op with
    | submitControl _ setup buffer =>
      have hend := e.isScheduled_controlTransfer setup buffer v s
      exact nomatch hend.symm.trans (Transfer.isScheduled_eq_false.2 hs)
    | submitInterrupt => exact .inl rfl
    | submitIsochronous => exact .inr rfl
    | _ => exact nomatch hop
  | passthrough p =>
    rcases isSettled_serve hop p v s with ⟨x, hx⟩ | hidle
    · exact nomatch hsub.symm.trans hx
    · exact nomatch hbusy.symm.trans hidle
  | external x => exact absurd rfl (hd x.state.location)

end Operation

/-! ## Fates -/

/-- Whether a slot is idle again, so that the pool has a slot to give away. -/
def Bus.Frees {σ : Type} (id : TransferId) (b : Bus σ) : Prop :=
  (∃ t, b.pool.get? id = some t ∧ t.busy = false) ∧ ∃ t pool, b.pool.allocate = some (t, pool)

theorem Bus.frees_of_idle {σ : Type} {id : TransferId} {b : Bus σ} {t : Transfer}
    (ht : b.pool.get? id = some t) (hidle : t.busy = false) : b.Frees id :=
  ⟨⟨t, ht, hidle⟩, TransferPool.exists_allocate_of_idle ht hidle⟩

/-- What becomes of a transfer in a busy slot of a scene of a run. -/
inductive Scene.Fate {σ : Type} (host : Host σ) (allowed : Scene σ → Operation σ → Prop)
    (first c : Scene σ) (id : TransferId) (t : Transfer) : Prop
  /-- It stands on the agenda, and the first pump when it is due releases the slot. -/
  | scheduled (e : ScheduledEnd) (he : t.scheduled = some e) (hlisted : id ∈ c.bus.agenda.pending)
      (hpump : ∀ now, e.dueAt ≤ now → (c.bus.pump now).2.Frees id)
  /-- It was submitted to the host and has not been answered, and any answer releases the slot. -/
  | submitted (u : Submission σ) (x : HostTransfer) (hid : u.answer.id = id)
      (hu : u.Waits host allowed first t c) (hx : u.answer.submission = some x)
      (hanswer : ∀ op, op.Answers id → (c.after host op).bus.Frees id)
  /-- It is an interrupt or isochronous transfer that an emulated device did not answer. The slot
  stays as it is unless the host answers what it never got. -/
  | unanswered (u : Submission σ) (e : Emulated σ) (hid : u.answer.id = id)
      (hu : u.Waits host allowed first t c) (hx : u.answer.submission = none)
      (he : u.device = .emulated e)
      (hkind : u.op.submits = some .interrupt ∨ u.op.submits = some .isochronous)
      (hstays : ∀ c', Reached host (fun c op => allowed c op ∧ ¬ op.Answers id) c c' →
        c'.bus.pool.get? id = some t)

namespace Scene

variable {σ : Type} {host : Host σ} {c : Scene σ}

/-- **Who releases a slot.** Whatever calls were made of a new bus with built-in devices, a busy
slot has a scheduled end, or its transfer was submitted to the host and has not been answered, or it
is one that an emulated device left unanswered. Which of these it is does not depend on the device
being open or on the bus any more. -/
theorem fate_of_reached {n : Nat} (hn : n ≤ UInt32.size) {latency : UInt64} {memory : Memory}
    {world : σ} (h : Reached host (fun _ op => op.BringsBuiltIn)
      ⟨Bus.empty n latency memory, world, []⟩ c) {id : TransferId} {t : Transfer}
    (ht : c.bus.pool.get? id = some t) (hbusy : t.busy = true) :
    Fate host (fun _ op => op.BringsBuiltIn) ⟨Bus.empty n latency memory, world, []⟩ c id t := by
  have h0 : (Bus.empty n latency memory : Bus σ).Posted := Bus.posted_empty hn latency memory
  have hposted := h.posted h0
  cases hs : t.scheduled with
  | some e =>
    have hlisted : id ∈ c.bus.agenda.pending := by
      rw [hposted.agenda.mem_iff_of_get? ht, Transfer.isScheduled, hs]
      rfl
    refine .scheduled e hs hlisted fun now hnow => ?_
    have hget := (Agenda.swept_pump c.bus.agenda c.bus.pool now).get? id
    rw [ht, Option.map_some, if_pos hlisted,
      Transfer.settle_of_due hs (UInt64.not_lt.2 hnow)] at hget
    exact Bus.frees_of_idle hget rfl
  | none =>
    have hw : Bus.awaitsHost t = true := Bus.awaitsHost_iff.2 ⟨hbusy, hs⟩
    obtain ⟨u, hid, hu⟩ := h.exists_submission h0.named (Bus.not_awaitsHost_empty n) ht hw
    cases hx : u.answer.submission with
    | some x =>
      refine .submitted u x hid hu hx fun op hop => ?_
      obtain ⟨t', ht', hidle⟩ := Bus.idle_of_answers host (s := c.world) ht hw hop
      exact Bus.frees_of_idle ht' hidle
    | none =>
      obtain ⟨now, hsub, hslot⟩ := hu.servedBy h0.named
      have hbuilt : u.device.IsBuiltIn :=
        (hu.reached.posted h0).roster u.key u.device (Bus.roster_of_openedDevice hu.opened)
      have hwaits : Bus.awaitsHost (u.op.serve u.device _ u.scene.world).2.1.transfer = true :=
        Option.some.inj (hu.slot.symm.trans hslot) ▸ hu.awaits
      obtain ⟨⟨e, he⟩, hkind⟩ := Operation.emulated_of_left_open hu.target hbuilt
        (hsub.symm.trans hx) hwaits
      refine .unanswered u e hid hu hx he hkind fun c' hc' => ?_
      exact hc'.get?_of_awaitsHost hposted.named ht hw

/-! ### An unanswered transfer -/

/-- A new bus to which an emulated device without a peripheral was attached and opened. The guest
submitted an interrupt transfer to it, then the device was disconnected and taken off the bus. -/
def stranded : Scene Unit :=
  ((((blank.after .none (.attach (.emulated (.ofDescriptor {} default)))).after .none
    (.openRecord default)).after .none (.submitInterrupt default 129 ⟨0, 8⟩ 0)).after .none
      (.disconnect default true))

theorem reached_stranded : Reached Host.none (fun _ op => op.BringsBuiltIn) blank stranded :=
  (((Reached.first.after _ (Device.isBuiltIn_emulated _)).after _ trivial).after _ trivial).after _
    trivial

/-- The busy slot of the disconnected device has its fate like any other. -/
theorem fate_of_stranded :
    ∃ t, stranded.bus.pool.get? ⟨1⟩ = some t ∧
      Fate Host.none (fun _ op => op.BringsBuiltIn) blank stranded ⟨1⟩ t := by
  obtain ⟨t, ht, hbusy⟩ : ∃ t, stranded.bus.pool.get? ⟨1⟩ = some t ∧ t.busy = true := ⟨_, rfl, rfl⟩
  exact ⟨t, ht, fate_of_reached (by decide) reached_stranded ht hbusy⟩

/-- No device is open or on the bus any more, nothing stands on the agenda, and the host was never
given a transfer; but a slot is busy, and no pump releases it. -/
theorem slot_of_stranded :
    Reached Host.none (fun _ op => op.BringsBuiltIn) blank stranded ∧
      stranded.bus.opened = [] ∧ stranded.bus.attached = [] ∧ stranded.bus.agenda.pending = [] ∧
      stranded.past.accepted = [(.interrupt, ⟨⟨1⟩, none⟩)] ∧
      ∃ t, stranded.bus.pool.get? ⟨1⟩ = some t ∧ t.busy = true ∧
        ∀ now, (stranded.bus.pump now).2.pool.get? ⟨1⟩ = some t :=
  ⟨reached_stranded, rfl, rfl, rfl, rfl, _, rfl, rfl, fun _ => rfl⟩

end Scene

end VirtualUsb
