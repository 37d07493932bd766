import VirtualUsb.Proofs.Bus.Lists
import VirtualUsb.Proofs.Transfer.Deadline
import VirtualUsb.Proofs.Transfer.InFlight

/-!
# Who waits for the host

Whatever devices there are, a slot that waits for the host was left so by a submission of the run,
and no call has answered it since (`Scene.Reached.exists_submission`). So what a submission did to
its slot can be read off the slot for as long as the transfer waits (`Submission.Waits.get?`).
-/

namespace VirtualUsb

/-! ## What a submission asks of a device -/

namespace Operation

variable {σ : Type}

def serve : Operation σ → Device σ → Service → σ → Device σ × Service × σ
  | .submitControl _ setup buffer _, d, v, s => d.controlTransfer setup buffer v s
  | .submitInterrupt _ endpoint buffer _, d, v, s => d.interruptTransfer endpoint buffer v s
  | .submitIsochronous .., d, v, s => d.isochronousTransfer v s
  | _, d, v, s => (d, v, s)

def isoRequest : Operation σ → IsoRequest
  | .submitIsochronous _ request _ => request
  | _ => {}

/-- Whether a call submits an isochronous transfer of more packets than one may have. -/
def IsOversized (op : Operation σ) : Prop := IsoRequest.maxPackets < op.isoRequest.numPackets.toNat

instance (op : Operation σ) : Decidable op.IsOversized :=
  inferInstanceAs (Decidable (IsoRequest.maxPackets < op.isoRequest.numPackets.toNat))

theorem target?_of_submits {op : Operation σ} {kind : TransferKind} (h : op.submits = some kind) :
    ∃ handle, op.target? = some handle := by
  cases op with
  | submitControl handle | submitInterrupt handle | submitIsochronous handle => exact ⟨handle, rfl⟩
  | _ => exact nomatch h

theorem not_answers_of_submits {op : Operation σ} {kind : TransferKind}
    (h : op.submits = some kind) (id : TransferId) : ¬ op.Answers id := by
  cases op with
  | complete | fail => exact nomatch h
  | _ => exact fun ha => ha

end Operation

/-! ## Answers of the host -/

/-- What an answer of the host makes of the transfer that it is for. -/
def Transfer.endedBy {σ : Type} (t : Transfer) : Operation σ → Transfer
  | .complete c => t.deliver c
  | .fail _ e => t.finish (.ofHost e) 0
  | _ => t

theorem Transfer.busy_endedBy {σ : Type} (t : Transfer) {op : Operation σ} {id : TransferId}
    (hop : op.Answers id) : (t.endedBy op).busy = false := by
  cases op with
  | complete | fail => rfl
  | _ => exact hop.elim

theorem Transfer.scheduled_endedBy {σ : Type} (t : Transfer) {op : Operation σ} {id : TransferId}
    (hop : op.Answers id) (hs : t.scheduled = none) : (t.endedBy op).scheduled = none := by
  cases op with
  | complete c => exact (Transfer.scheduled_clearDestination c.kind).trans hs
  | fail => rfl
  | _ => exact hop.elim

/-! ## Owners -/

theorem Procedure.owner_run {σ : Type} (p : Procedure σ) (v : Service) (s : σ) :
    (p.run v s).1.transfer.owner = v.transfer.owner := by
  induction p generalizing v s with
  | done => rfl
  | look next ih => exact ih s v s
  | change world next ih => exact ih v world
  | inspect next ih => exact ih _ _ v s
  | read b next ih => exact ih _ v s
  | write b data next ih => exact ih _ _ s
  | poke addr data next ih => exact ih _ s
  | schedule status count next ih => exact ih _ s
  | finish status count next ih => exact ih _ s
  | submit t next ih => exact ih _ s

namespace Emulated

theorem owner_conclude (v : Service) (isIn : Bool) (b : GuestBuffer) (data : Bytes) (count : Nat) :
    (conclude v isIn b data count).transfer.owner = v.transfer.owner := by
  rw [transfer_conclude]

theorem owner_interruptTransfer {σ : Type} (d : Emulated σ) (v : Service) (s : σ)
    (endpoint : UInt8) (buffer : GuestBuffer) :
    (d.interruptTransfer endpoint buffer v s).1.transfer.owner = v.transfer.owner := by
  unfold interruptTransfer
  split
  · rfl
  · dsimp only
    split
    · rfl
    · exact owner_conclude ..

end Emulated

namespace Passthrough

theorem owner_expecting (t : Transfer) (endpoint : UInt8) (buffer : GuestBuffer) :
    (expecting t endpoint buffer).owner = t.owner := by
  unfold expecting
  split <;> rfl

variable (d : Passthrough) (v : Service)

theorem owner_controlTransfer (setup : SetupPacket) (buffer : GuestBuffer) :
    (d.controlTransfer setup buffer v).transfer.owner = v.transfer.owner := by
  unfold controlTransfer
  split <;> rfl

theorem owner_interruptTransfer (endpoint : UInt8) (buffer : GuestBuffer) :
    (d.interruptTransfer endpoint buffer v).transfer.owner = v.transfer.owner := by
  unfold interruptTransfer
  split
  · rfl
  · exact owner_expecting ..

theorem owner_isochronousTransfer :
    (d.isochronousTransfer v).transfer.owner = v.transfer.owner := by
  unfold isochronousTransfer
  split
  · rfl
  · exact owner_expecting ..

end Passthrough

namespace Operation

variable {σ : Type} (op : Operation σ) (d : Device σ) (v : Service) (s : σ)

theorem id_serve : (op.serve d v s).2.1.id = v.id := by
  cases op with
  | submitControl _ setup buffer =>
    exact (d.follows_controlTransfer v s setup buffer fun _ _ _ => trivial).id_eq
  | submitInterrupt _ endpoint buffer =>
    exact (d.follows_interruptTransfer v s endpoint buffer fun _ _ _ => trivial).id_eq
  | submitIsochronous => exact (d.follows_isochronousTransfer v s fun _ _ _ => trivial).id_eq
  | _ => rfl

/-- No device can change the location that a transfer is noted for. -/
theorem owner_serve : (op.serve d v s).2.1.transfer.owner = v.transfer.owner := by
  cases op with
  | submitControl _ setup buffer =>
    cases d with
    | emulated e => exact Emulated.owner_conclude ..
    | passthrough p => exact p.owner_controlTransfer v setup buffer
    | external x => exact Procedure.owner_run ..
  | submitInterrupt _ endpoint buffer =>
    cases d with
    | emulated e => exact e.owner_interruptTransfer v s endpoint buffer
    | passthrough p => exact p.owner_interruptTransfer v endpoint buffer
    | external x => exact Procedure.owner_run ..
  | submitIsochronous =>
    cases d with
    | emulated e => rfl
    | passthrough p => exact p.owner_isochronousTransfer v
    | external x => exact Procedure.owner_run ..
  | _ => rfl

end Operation

/-! ## Accepted transfers -/

namespace Bus

variable {σ : Type} (host : Host σ) {b : Bus σ} (s : σ)

/-- The service that an accepted submission begins with: the slot is claimed anew and noted for the
location of the handle. -/
def serviceFor (b : Bus σ) (op : Operation σ) (h : Handle) (id : TransferId) (now : UInt64) :
    Service :=
  b.serviceOf { id, busy := true, owner := some h.location, iso := op.isoRequest } now

/-- Whether a device served the transfer of a submission, and its slot and what is prepared for the
host are as the device left them. -/
def ServedBy (b : Bus σ) (op : Operation σ) (h : Handle) (d : Device σ) (s : σ) (a : Dispatch)
    (b' : Bus σ) : Prop :=
  ∃ now, a.submission = (op.serve d (b.serviceFor op h a.id now) s).2.1.submission ∧
    b'.pool.get? a.id = some (op.serve d (b.serviceFor op h a.id now) s).2.1.transfer

/-- The bus after a device has served the transfer of a submission. -/
def afterServing (b : Bus σ) (key : DeviceKey) (id : TransferId) (cursor : Nat)
    (r : Device σ × Service × σ) : Bus σ :=
  { b with
    pool := { b.pool.set id r.2.1.transfer with cursor }
    memory := r.2.1.memory
    agenda := r.2.1.agenda
    roster := b.roster.set key r.1 }

theorem dispatch_of_ok (hn : b.pool.Named) (op : Operation σ) {h : Handle} {now : UInt64}
    {a : Dispatch} (hok : (b.dispatch h now op.isoRequest op.serve s).1 = .ok a) :
    ∃ key d old cursor r, b.openedDevice h = some (key, d) ∧ b.pool.get? a.id = some old ∧
      r = op.serve d (b.serviceFor op h a.id now) s ∧ a.submission = r.2.1.submission ∧
      (b.dispatch h now op.isoRequest op.serve s).2 = (b.afterServing key a.id cursor r, r.2.2) := by
  rcases dispatch_eq hn (fun _ d _ v s _ => op.id_serve d v s) now s with
    ⟨e, he⟩ | ⟨key, d, old, cursor, r, hd, hold, -, hr, he⟩
  · rw [he] at hok
    exact nomatch hok
  · rw [he] at hok ⊢
    obtain rfl := Except.ok.inj hok
    exact ⟨key, d, old, cursor, r, hd, hold, hr, rfl, rfl⟩

section

variable {h : Handle} (now : UInt64) (iso : IsoRequest)
  (serve : Device σ → Service → σ → Device σ × Service × σ)

theorem dispatch_of_openedDevice_eq_none (hd : b.openedDevice h = none) :
    b.dispatch h now iso serve s = (.error .noDevice, b, s) := by
  unfold dispatch
  rw [hd]

variable {key : DeviceKey} {d : Device σ} (hd : b.openedDevice h = some (key, d))

include hd

theorem dispatch_of_allocate_eq_none (hfull : b.pool.allocate = none) :
    b.dispatch h now iso serve s = (.error .busy, b, s) := by
  unfold dispatch
  rw [hd, hfull]

theorem exists_ok_of_allocate {r : Transfer × TransferPool} (hslot : b.pool.allocate = some r) :
    ∃ a, (b.dispatch h now iso serve s).1 = .ok a := by
  unfold dispatch
  rw [hd, hslot]
  exact ⟨_, rfl⟩

end

/-- An isochronous transfer of too many packets is refused, whatever device it is for. -/
theorem call_of_isOversized {op : Operation σ} (hsize : op.IsOversized) :
    b.call host s op = (.dispatch (.error .invalidArgument), b, s) := by
  cases op with
  | submitIsochronous h request now =>
    show (Answer.dispatch (b.submitIsochronous h request now s).1, _) = _
    rw [show b.submitIsochronous h request now s = _ from if_pos hsize]
  | _ => exact absurd hsize (Nat.not_lt_zero _)

/-- Any other submission claims a slot and lets the open device serve the transfer. -/
theorem call_of_target {op : Operation σ} {h : Handle} (hop : op.target? = some h)
    (hsize : ¬ op.IsOversized) :
    ∃ now, b.call host s op = (.dispatch (b.dispatch h now op.isoRequest op.serve s).1,
      (b.dispatch h now op.isoRequest op.serve s).2) := by
  cases op with
  | submitControl h' setup buffer now | submitInterrupt h' endpoint buffer now =>
    obtain rfl := Option.some.inj hop
    exact ⟨now, rfl⟩
  | submitIsochronous h' request now =>
    obtain rfl := Option.some.inj hop
    refine ⟨now, ?_⟩
    show (Answer.dispatch (b.submitIsochronous h' request now s).1,
      (b.submitIsochronous h' request now s).2) = _
    rw [show b.submitIsochronous h' request now s = _ from if_neg hsize]
    rfl
  | _ => exact nomatch hop

/-- An accepted transfer is served by the open device at the location of the handle, and the bus
takes over what the device has left. -/
theorem call_of_ok (hn : b.pool.Named) {op : Operation σ} {h : Handle} {a : Dispatch}
    (hop : op.target? = some h) (hok : (b.call host s op).1 = .dispatch (.ok a)) :
    ∃ key d old now cursor r, b.openedDevice h = some (key, d) ∧ b.pool.get? a.id = some old ∧
      r = op.serve d (b.serviceFor op h a.id now) s ∧ a.submission = r.2.1.submission ∧
      (b.call host s op).2 = (b.afterServing key a.id cursor r, r.2.2) := by
  by_cases hsize : op.IsOversized
  · rw [call_of_isOversized host s hsize] at hok
    exact nomatch Answer.dispatch.inj hok
  · obtain ⟨now, hcall⟩ := call_of_target host s hop hsize
    rw [hcall] at hok ⊢
    obtain ⟨key, d, old, cursor, r, h⟩ := dispatch_of_ok s hn op (Answer.dispatch.inj hok)
    exact ⟨key, d, old, now, cursor, r, h⟩

theorem servedBy_of_ok (hn : b.pool.Named) {op : Operation σ} {h : Handle} {a : Dispatch}
    (hop : op.target? = some h) (hok : (b.call host s op).1 = .dispatch (.ok a)) :
    ∃ key d, b.openedDevice h = some (key, d) ∧
      b.ServedBy op h d s a (b.call host s op).2.1 := by
  obtain ⟨key, d, old, now, cursor, r, hd, hold, rfl, hsub, hcall⟩ := call_of_ok host s hn hop hok
  refine ⟨key, d, hd, now, hsub, ?_⟩
  rw [hcall]
  exact (TransferPool.get?_set_of_get? hold _ a.id).trans (if_pos rfl)

section

variable {op : Operation σ} {h : Handle} {a : Dispatch} {key : DeviceKey} {d : Device σ}

/-- The device that serves an accepted transfer is the one that is open where the handle leads. -/
theorem call_of_openedDevice (hn : b.pool.Named) (hd : b.openedDevice h = some (key, d))
    (hop : op.target? = some h) (hok : (b.call host s op).1 = .dispatch (.ok a)) :
    ∃ old now cursor r, b.pool.get? a.id = some old ∧
      r = op.serve d (b.serviceFor op h a.id now) s ∧ a.submission = r.2.1.submission ∧
      (b.call host s op).2 = (b.afterServing key a.id cursor r, r.2.2) := by
  obtain ⟨key', d', old, now, cursor, r, hd', hrest⟩ := call_of_ok host s hn hop hok
  obtain ⟨rfl, rfl⟩ := Prod.mk.inj (Option.some.inj (hd.symm.trans hd'))
  exact ⟨old, now, cursor, r, hrest⟩

theorem servedBy_of_openedDevice (hn : b.pool.Named) (hd : b.openedDevice h = some (key, d))
    (hop : op.target? = some h) (hok : (b.call host s op).1 = .dispatch (.ok a)) :
    b.ServedBy op h d s a (b.call host s op).2.1 := by
  obtain ⟨key', d', hd', hserved⟩ := servedBy_of_ok host s hn hop hok
  obtain ⟨rfl, rfl⟩ := Prod.mk.inj (Option.some.inj (hd.symm.trans hd'))
  exact hserved

end

/-! ## Waiting slots -/

section

variable {s} {op : Operation σ} {id : TransferId} {t : Transfer}

theorem ServedBy.owner_eq {h : Handle} {d : Device σ} {a : Dispatch} {b' : Bus σ}
    (hs : b.ServedBy op h d s a b') (ht : b'.pool.get? a.id = some t) :
    t.owner = some h.location := by
  obtain ⟨now, -, hget⟩ := hs
  obtain rfl := Option.some.inj (hget.symm.trans ht)
  exact op.owner_serve d _ s

/-- An answer of the host ends the transfer of a slot that waits for it. -/
theorem get?_call_of_answers (ht : b.pool.get? id = some t) (hw : awaitsHost t = true)
    (hop : op.Answers id) : (b.call host s op).2.1.pool.get? id = some (t.endedBy op) := by
  have set (u : Transfer) : (b.pool.set id u).get? id = some u :=
    (TransferPool.get?_set_of_get? ht u id).trans (if_pos rfl)
  cases op with
  | complete c =>
    obtain rfl : c.id = id := hop
    have hq := complete_of_awaitsHost host s ht hw
    show (b.complete host c s).1.pool.get? c.id = _
    rw [hq.pool]
    exact set _
  | fail j e =>
    obtain rfl : j = id := hop
    show (b.fail j e).pool.get? j = _
    rw [fail_of_awaitsHost ht hw]
    exact set _
  | _ => exact hop.elim

theorem idle_of_answers (ht : b.pool.get? id = some t) (hw : awaitsHost t = true)
    (hop : op.Answers id) :
    ∃ t', (b.call host s op).2.1.pool.get? id = some t' ∧ t'.busy = false :=
  ⟨_, get?_call_of_answers host ht hw hop, t.busy_endedBy hop⟩

theorem not_awaitsHost_empty {latency : UInt64} {memory : Memory} (n : Nat) (id : TransferId)
    (t : Transfer) (ht : (empty n latency memory : Bus σ).pool.get? id = some t) :
    awaitsHost t = false := by
  obtain ⟨id', rfl⟩ := TransferPool.get?_ofCapacity ht
  rfl

/-- Whatever devices there are, a slot without a scheduled end changes only by being claimed, or by
an answer if it is busy. -/
theorem get?_call_of_unscheduled (hn : b.pool.Named) (ht : b.pool.get? id = some t)
    (hs : t.scheduled = none)
    (hclaim : ∀ kind a, Past.acceptedBy (op, (b.call host s op).1) = some (kind, a) → a.id ≠ id)
    (hop : op.Answers id → t.busy = false) :
    (b.call host s op).2.1.pool.get? id = some t := by
  rcases effect_or_admitted host s hn op with ⟨he, -⟩ | ⟨kind, a, ha, hadm⟩
  · exact he.get?_of_unscheduled ht hs hclaim hop
  · rw [hadm.other id (hclaim kind a ha).symm, ht]

theorem ne_of_acceptedBy (hn : b.pool.Named) (ht : b.pool.get? id = some t)
    (hbusy : t.busy = true) {kind : TransferKind} {a : Dispatch}
    (ha : Past.acceptedBy (op, (b.call host s op).1) = some (kind, a)) : a.id ≠ id := by
  rcases effect_or_admitted host s hn op with ⟨-, hnone⟩ | ⟨kind', a', ha', hadm⟩
  · exact nomatch hnone.symm.trans ha
  · obtain ⟨old, hold, hidle⟩ := hadm.idle
    obtain ⟨-, rfl⟩ := Prod.mk.inj (Option.some.inj (ha'.symm.trans ha))
    rintro rfl
    obtain rfl := Option.some.inj (hold.symm.trans ht)
    exact nomatch hidle.symm.trans hbusy

/-- Nothing but an answer of the host changes a slot that waits for it, whatever devices there
are. -/
theorem get?_call_of_awaitsHost (hn : b.pool.Named) (ht : b.pool.get? id = some t)
    (hw : awaitsHost t = true) (hop : ¬ op.Answers id) :
    (b.call host s op).2.1.pool.get? id = some t := by
  obtain ⟨hbusy, hs⟩ := awaitsHost_iff.1 hw
  exact get?_call_of_unscheduled host hn ht hs (fun _ _ => ne_of_acceptedBy host hn ht hbusy)
    fun ha => absurd ha hop

/-- A slot that waits for the host was just claimed, or it waited before and was not answered. -/
theorem claimed_or_awaits (hn : b.pool.Named)
    (ht : (b.call host s op).2.1.pool.get? id = some t) (hw : awaitsHost t = true) :
    (∃ kind a, op.submits = some kind ∧ (b.call host s op).1 = .dispatch (.ok a) ∧ a.id = id) ∨
      b.pool.get? id = some t ∧ ¬ op.Answers id := by
  have hbusy := (awaitsHost_iff.1 hw).1
  rcases effect_or_admitted host s hn op with ⟨he, hnone⟩ | ⟨kind, a, ha, hadm⟩
  · have hb := he.busy_of_none hnone ht hbusy
    refine .inr ⟨hb, fun hop => ?_⟩
    obtain ⟨t', ht', hidle⟩ := idle_of_answers host (s := s) hb hw hop
    obtain rfl := Option.some.inj (ht.symm.trans ht')
    exact nomatch hbusy.symm.trans hidle
  · obtain ⟨hsub, hok⟩ := Past.eq_of_acceptedBy ha
    by_cases hid : a.id = id
    · exact .inl ⟨kind, a, hsub, hok, hid⟩
    · exact .inr ⟨(hadm.other id (Ne.symm hid)).symm.trans ht, op.not_answers_of_submits hsub id⟩

end

end Bus

/-! ## Submissions of a run -/

/-- A call that was accepted as a transfer: when and by what handle it was made, the device that it
came to, and the answer. -/
structure Submission (σ : Type) where
  scene : Scene σ
  op : Operation σ
  handle : Handle
  key : DeviceKey
  device : Device σ
  answer : Dispatch

/-- Whether the transfer of a submission still waits for the host in a scene of a run: the device
left its slot waiting, and no call answered it since. -/
structure Submission.Waits {σ : Type} (host : Host σ) (allowed : Scene σ → Operation σ → Prop)
    (first : Scene σ) (u : Submission σ) (t : Transfer) (c : Scene σ) : Prop where
  reached : Scene.Reached host allowed first u.scene
  made : allowed u.scene u.op
  target : u.op.target? = some u.handle
  opened : u.scene.bus.openedDevice u.handle = some (u.key, u.device)
  answer : (u.scene.bus.call host u.scene.world u.op).1 = .dispatch (.ok u.answer)
  slot : (u.scene.after host u.op).bus.pool.get? u.answer.id = some t
  awaits : Bus.awaitsHost t = true
  since : Scene.Reached host (fun c op => allowed c op ∧ ¬ op.Answers u.answer.id)
    (u.scene.after host u.op) c

namespace Scene

variable {σ : Type} {host : Host σ} {allowed : Scene σ → Operation σ → Prop} {first c : Scene σ}

theorem Reached.named (h : Reached host allowed first c) (hn : first.bus.pool.Named) :
    c.bus.pool.Named := by
  have hready : c.bus.Ready first.bus.latency := by
    refine h.invariant (P := fun c => c.bus.Ready first.bus.latency) ⟨hn, rfl⟩ ?_
    intro c op hc _
    exact hc.call host c.world op
  exact hready.named

theorem Reached.get?_of_awaitsHost {id : TransferId} {t : Transfer}
    (h : Reached host (fun c op => allowed c op ∧ ¬ op.Answers id) first c)
    (hn : first.bus.pool.Named) (ht : first.bus.pool.get? id = some t)
    (hw : Bus.awaitsHost t = true) : c.bus.pool.get? id = some t := by
  induction h with
  | first => exact ht
  | after op hc hop ih => exact Bus.get?_call_of_awaitsHost host (hc.named hn) ih hw hop.2

/-- A slot that waits for the host was left waiting by a submission of the run, if none waited at
first. -/
theorem Reached.exists_submission (h : Reached host allowed first c) (hn : first.bus.pool.Named)
    (hfirst : ∀ id t, first.bus.pool.get? id = some t → Bus.awaitsHost t = false)
    {id : TransferId} {t : Transfer} (ht : c.bus.pool.get? id = some t)
    (hw : Bus.awaitsHost t = true) :
    ∃ u : Submission σ, u.answer.id = id ∧ u.Waits host allowed first t c := by
  induction h with
  | first => exact nomatch (hfirst id t ht).symm.trans hw
  | @after c op hc hop ih =>
    rcases Bus.claimed_or_awaits host (hc.named hn) ht hw with
      ⟨kind, a, hsub, hok, rfl⟩ | ⟨hb, hans⟩
    · obtain ⟨handle, htarget⟩ := op.target?_of_submits hsub
      obtain ⟨key, d, hd, -⟩ := Bus.servedBy_of_ok host c.world (hc.named hn) htarget hok
      exact ⟨⟨c, op, handle, key, d, a⟩, rfl, hc, hop, htarget, hd, hok, ht, hw, .first⟩
    · obtain ⟨u, rfl, hu⟩ := ih hb
      exact ⟨u, rfl, { hu with since := hu.since.after op ⟨hop, hans⟩ }⟩

end Scene

namespace Submission.Waits

variable {σ : Type} {host : Host σ} {allowed : Scene σ → Operation σ → Prop} {first c : Scene σ}
  {u : Submission σ} {t : Transfer}

theorem run (h : u.Waits host allowed first t c) : Scene.Reached host allowed u.scene c :=
  (Scene.Reached.first.after u.op h.made).trans (h.since.mono fun _ _ => And.left)

theorem servedBy (h : u.Waits host allowed first t c) (hn : first.bus.pool.Named) :
    u.scene.bus.ServedBy u.op u.handle u.device u.scene.world u.answer
      (u.scene.after host u.op).bus := by
  obtain ⟨key, d, hd, hs⟩ := Bus.servedBy_of_ok host u.scene.world (h.reached.named hn) h.target
    h.answer
  obtain ⟨rfl, rfl⟩ := Prod.mk.inj (Option.some.inj (h.opened.symm.trans hd))
  exact hs

theorem get? (h : u.Waits host allowed first t c) (hn : first.bus.pool.Named) :
    c.bus.pool.get? u.answer.id = some t :=
  h.since.get?_of_awaitsHost ((h.reached.after u.op h.made).named hn) h.slot h.awaits

theorem owner_eq (h : u.Waits host allowed first t c) (hn : first.bus.pool.Named) :
    t.owner = some u.handle.location := (h.servedBy hn).owner_eq h.slot

end Submission.Waits

/-! ## A small bus -/

/-- A host that opens every device under the same handle and lets its interfaces be claimed. -/
def Host.obliging : Host Unit :=
  { Host.none with openDevice _ s := (.ok 1, s), claim _ _ s := (.ok (), s) }

def Passthrough.idle (device : HostDevice) : Passthrough :=
  (Passthrough.attach Host.none device default 0 ()).1

namespace Scene

/-- A new bus with two slots and sixteen bytes of guest memory. -/
def blank : Scene Unit := ⟨Bus.empty 2 0 (.blank 16), (), []⟩

/-- The same bus with one device of the host, which is open. -/
def plugged : Scene Unit :=
  (blank.after .obliging (.attach (.passthrough (.idle default)))).after .obliging
    (.openRecord default)

theorem reached_plugged :
    Reached .obliging (fun c op => c.bus.AttachesClosed op) blank plugged :=
  (Reached.first.after _ rfl).after _ trivial

end Scene

end VirtualUsb
