import VirtualUsb.Proofs.Bus.Frame
import VirtualUsb.Proofs.Transfer.Pump

/-!
# Serving a transfer

There are four ways in which a device of the library leaves a transfer that it serves (`Served`).
`Bus.Accepted` says what a submission changes about the transfers of a bus if it is accepted;
otherwise it changes nothing (`Bus.dispatch_cases`).
-/

namespace VirtualUsb

def Transfer.withDestination (t : Transfer) (kind : TransferKind) (buffer : Option GuestBuffer) :
    Transfer :=
  match kind with
  | .control => { t with controlDestination := buffer }
  | .interrupt | .isochronous => { t with endpointDestination := buffer }

/-- How a service that began as `v` may leave a transfer of a kind: open, with its end scheduled,
ended because the device is not open on the host, or prepared for the host. -/
inductive Served (kind : TransferKind) (v : Service) : Service → Prop
  | idle : Served kind v v
  | scheduled (memory : Memory) (count : Nat) :
    Served kind v ({ v with memory }.schedule .completed count)
  | refused : Served kind v (v.finish .noDevice 0)
  | prepared (buffer : Option GuestBuffer) (t : HostTransfer) (hid : t.id = v.id)
      (hkind : t.kind = kind) :
    Served kind v
      { v with transfer := v.transfer.withDestination kind buffer, submission := some t }

theorem Served.id_eq {kind : TransferKind} {v v' : Service} (h : Served kind v v') :
    v'.id = v.id := by
  cases h with
  | idle | scheduled | refused => rfl
  | prepared => cases kind <;> rfl

/-- Only a transfer prepared for the host is handed to it, under its own name and kind, and it has
neither ended nor a scheduled end. -/
theorem Served.of_submission {kind : TransferKind} {v v' : Service} {t : HostTransfer}
    (h : Served kind v v') (hv : v.submission = none) (ht : v'.submission = some t) :
    t.id = v.id ∧ t.kind = kind ∧ v'.transfer.busy = v.transfer.busy ∧
      v'.transfer.scheduled = v.transfer.scheduled := by
  cases h with
  | idle | scheduled | refused => exact nomatch hv.symm.trans ht
  | prepared buffer u hid hkind =>
    obtain rfl := Option.some.inj ht
    refine ⟨hid, hkind, ?_, ?_⟩
    · cases kind <;> rfl
    · cases kind <;> rfl

/-! ## Devices -/

namespace Emulated

variable {σ : Type} (d : Emulated σ) (v : Service) (s : σ)

theorem served_conclude (kind : TransferKind) (isIn : Bool) (b : GuestBuffer) (data : Bytes)
    (count : Nat) : Served kind v (conclude v isIn b data count) := by
  unfold conclude
  dsimp only
  split
  · exact .scheduled _ _
  · exact .scheduled v.memory _

theorem served_controlTransfer (setup : SetupPacket) (buffer : GuestBuffer) :
    Served .control v (d.controlTransfer setup buffer v s).2.1 :=
  served_conclude v _ _ _ _ _

theorem served_interruptTransfer (endpoint : UInt8) (buffer : GuestBuffer) :
    Served .interrupt v (d.interruptTransfer endpoint buffer v s).1 := by
  unfold interruptTransfer
  split
  · exact .idle
  · dsimp only
    split
    · exact .idle
    · exact served_conclude v _ _ _ _ _

end Emulated

namespace Passthrough

variable (d : Passthrough) (v : Service)

theorem served_controlTransfer (setup : SetupPacket) (buffer : GuestBuffer) :
    Served .control v (d.controlTransfer setup buffer v) := by
  unfold controlTransfer
  split
  · exact .refused
  · exact Served.prepared (if setup.isIn then some _ else none) _ rfl rfl

theorem expecting_eq (t : Transfer) (endpoint : UInt8) (buffer : GuestBuffer) :
    expecting t endpoint buffer =
      { t with endpointDestination :=
        if isInEndpoint endpoint then some buffer else t.endpointDestination } := by
  unfold expecting
  split <;> rfl

theorem served_interruptTransfer (endpoint : UInt8) (buffer : GuestBuffer) :
    Served .interrupt v (d.interruptTransfer endpoint buffer v) := by
  unfold interruptTransfer
  split
  · exact .refused
  · dsimp only
    rw [expecting_eq]
    exact Served.prepared (if isInEndpoint endpoint then some _ else _) _ rfl rfl

theorem served_isochronousTransfer : Served .isochronous v (d.isochronousTransfer v) := by
  unfold isochronousTransfer
  split
  · exact .refused
  · dsimp only
    rw [expecting_eq]
    exact Served.prepared (if isInEndpoint v.transfer.iso.endpoint then some _ else _) _ rfl rfl

end Passthrough

namespace Device

variable {σ : Type} {d : Device σ} (hd : d.IsBuiltIn) (v : Service) (s : σ)

include hd

theorem served_controlTransfer (setup : SetupPacket) (buffer : GuestBuffer) :
    Served .control v (d.controlTransfer setup buffer v s).2.1 := by
  cases d with
  | emulated e => exact e.served_controlTransfer v s setup buffer
  | passthrough p => exact p.served_controlTransfer v setup buffer
  | external x => exact absurd rfl (hd x.state.location)

theorem served_interruptTransfer (endpoint : UInt8) (buffer : GuestBuffer) :
    Served .interrupt v (d.interruptTransfer endpoint buffer v s).2.1 := by
  cases d with
  | emulated e => exact e.served_interruptTransfer v s endpoint buffer
  | passthrough p => exact p.served_interruptTransfer v endpoint buffer
  | external x => exact absurd rfl (hd x.state.location)

theorem served_isochronousTransfer :
    Served .isochronous v (d.isochronousTransfer v s).2.1 := by
  cases d with
  | emulated e => exact .idle
  | passthrough p => exact p.served_isochronousTransfer v
  | external x => exact absurd rfl (hd x.state.location)

end Device

/-! ## Submissions -/

/-- Whether every device of a roster is one of the library's own. -/
def Roster.AllBuiltIn {σ : Type} (r : Roster σ) : Prop :=
  ∀ key d, r.get? key = some d → d.IsBuiltIn

namespace Roster.AllBuiltIn

variable {σ : Type} {r r' : Roster σ}

theorem of_outlives (hr : r.AllBuiltIn) (h : r.Outlives r') : r'.AllBuiltIn := by
  intro key d' hd'
  obtain ⟨d, hd, e⟩ := h key d' hd'
  exact (hr key d hd).of_identity_eq e

theorem enroll (hr : r.AllBuiltIn) {d : Device σ} (hd : d.IsBuiltIn) :
    (r.enroll d).AllBuiltIn := by
  intro key x hx
  rw [get?_enroll] at hx
  split at hx
  · rw [← Option.some.inj hx]
    exact hd
  · exact hr key x hx

end Roster.AllBuiltIn

namespace Bus

variable {σ : Type} {b b' : Bus σ} {d : Dispatch} {kind : TransferKind}

/-- What the acceptance of a transfer changes on a bus: an idle slot is claimed, and a device serves
the transfer in it. -/
structure Accepted (kind : TransferKind) (b : Bus σ) (d : Dispatch) (b' : Bus σ) : Prop where
  idle : ∃ old, b.pool.get? d.id = some old ∧ old.busy = false
  served : ∃ (owner : Location) (iso : IsoRequest) (now : UInt64) (v : Service),
    Served kind (b.serviceOf { id := d.id, busy := true, owner := some owner, iso } now) v ∧
      d.submission = v.submission ∧ b'.agenda = v.agenda ∧ b'.pool.get? d.id = some v.transfer
  other : ∀ id, id ≠ d.id → b'.pool.get? id = b.pool.get? id
  capacity : b'.pool.capacity = b.pool.capacity
  named : b'.pool.Named
  roster : b.roster.Outlives b'.roster

/-- A bus refuses a transfer and stays as it is, or it claims an idle slot and lets the open device
serve the transfer in it. -/
theorem dispatch_eq (hn : b.pool.Named) {serve : Device σ → Service → σ → Device σ × Service × σ}
    {h : Handle} {iso : IsoRequest} (hid : ∀ key d, b.openedDevice h = some (key, d) →
      ∀ v s, v.transfer.iso = iso → (serve d v s).2.1.id = v.id) (now : UInt64) (s : σ) :
    (∃ e, b.dispatch h now iso serve s = (.error e, b, s)) ∨
      ∃ key d old cursor r, b.openedDevice h = some (key, d) ∧
        b.pool.get? old.id = some old ∧ old.busy = false ∧
        r = serve d (b.serviceOf { id := old.id, busy := true, owner := some h.location, iso } now) s ∧
        b.dispatch h now iso serve s = (.ok ⟨old.id, r.2.1.submission⟩,
          { b with
            pool := { b.pool.set old.id r.2.1.transfer with cursor }
            memory := r.2.1.memory
            agenda := r.2.1.agenda
            roster := b.roster.set key r.1 }, r.2.2) := by
  unfold dispatch
  split
  · exact .inl ⟨_, rfl⟩
  · rename_i key d hd
    split
    · exact .inl ⟨_, rfl⟩
    · rename_i t pool ht
      obtain ⟨old, hold, hbusy, rfl, hset⟩ := TransferPool.allocate_eq_some hn ht
      have hv := hid key d hd (b.serviceOf (prepare old.claimed h iso) now) s rfl
      refine .inr ⟨key, d, old, pool.cursor, _, hd, hold, hbusy, rfl, ?_⟩
      generalize hr : serve d (b.serviceOf (prepare old.claimed h iso) now) s = r at hv ⊢
      rw [show serve d (b.serviceOf
        { id := old.id, busy := true, owner := some h.location, iso } now) s = r from hr]
      have hpool : pool.set r.2.1.id r.2.1.transfer =
          { b.pool.set old.id r.2.1.transfer with cursor := pool.cursor } := by
        rw [hv]
        exact hset r.2.1.transfer
      rw [← hpool]
      rfl

/-- A bus refuses a transfer and stays as it is, or it accepts the transfer. -/
theorem dispatch_cases (hn : b.pool.Named) (hr : b.roster.AllBuiltIn)
    {serve : Device σ → Service → σ → Device σ × Service × σ}
    (hserve : ∀ d v s, d.IsBuiltIn → Served kind v (serve d v s).2.1)
    (hid : ∀ d v s, (serve d v s).1.identity = d.identity)
    (h : Handle) (now : UInt64) (iso : IsoRequest) (s : σ) :
    (∃ e, (b.dispatch h now iso serve s).1 = .error e ∧ (b.dispatch h now iso serve s).2.1 = b) ∨
      ∃ d, (b.dispatch h now iso serve s).1 = .ok d ∧
        Accepted kind b d (b.dispatch h now iso serve s).2.1 := by
  have hbuilt {key : DeviceKey} {d : Device σ} (hd : b.openedDevice h = some (key, d)) :
      d.IsBuiltIn := hr key d (roster_of_openedDevice hd)
  rcases dispatch_eq hn (fun _ _ hd v s _ => (hserve _ v s (hbuilt hd)).id_eq) now s with
    ⟨e, he⟩ | ⟨key, d, old, cursor, r, hd, hold, hbusy, hrd, he⟩
  · rw [he]
    exact .inl ⟨e, rfl, rfl⟩
  · have hv := hserve d (b.serviceOf { id := old.id, busy := true, owner := some h.location, iso } now)
      s (hbuilt hd)
    have hdev := hid d (b.serviceOf { id := old.id, busy := true, owner := some h.location, iso } now) s
    rw [← hrd] at hv hdev
    have hget (id) := TransferPool.get?_set_of_get? hold r.2.1.transfer id
    rw [he]
    refine .inr ⟨_, rfl, ⟨old, hold, hbusy⟩, ?_, fun id hne => ?_, ?_, ?_,
      Roster.outlives_set (roster_of_openedDevice hd) hdev⟩
    · exact ⟨h.location, iso, now, r.2.1, hv, rfl, rfl, (hget old.id).trans (if_pos rfl)⟩
    · exact (hget id).trans (if_neg fun e => hne e.symm)
    · exact TransferPool.capacity_set ..
    · exact hn.set hv.id_eq

end Bus

end VirtualUsb
