import VirtualUsb.Proofs.Transfer.Bookkeeping

/-!
# Submissions to any device

A device that a caller brought along may do more to a transfer than the library's own devices, but
it cannot rename the transfer, take anything off the agenda, or say where the host's data goes
(`Service.Follows`). So every call has one of the effects known for built-in devices, or it is a
submission that some device served in an idle slot (`Bus.effect_or_admitted`).
-/

namespace VirtualUsb

/-! ## Destinations -/

/-- Whether a buffer is the first part of another. -/
def GuestBuffer.Within (part whole : GuestBuffer) : Prop :=
  part.addr = whole.addr ∧ part.len ≤ whole.len

theorem GuestBuffer.truncated_within (b : GuestBuffer) (max : Nat) : (b.truncated max).Within b :=
  ⟨rfl, Nat.min_le_left ..⟩

namespace Operation

variable {σ : Type}

def buffer? : Operation σ → Option GuestBuffer
  | .submitControl _ _ buffer _ | .submitInterrupt _ _ buffer _ => some buffer
  | .submitIsochronous _ request _ => some request.buffer
  | _ => none

/-- Whether the data of a submitted transfer flows to the guest. -/
def isIn : Operation σ → Bool
  | .submitControl _ setup _ _ => setup.isIn
  | .submitInterrupt _ endpoint _ _ => isInEndpoint endpoint
  | .submitIsochronous _ request _ => isInEndpoint request.endpoint
  | _ => false

/-- Whether a submission lets data be written to a buffer: it flows to the guest, and the buffer is
part of the one that the guest passed. -/
def Covers (op : Operation σ) (g : GuestBuffer) : Prop :=
  op.isIn = true ∧ ∃ buffer, op.buffer? = some buffer ∧ g.Within buffer

end Operation

/-- Whether the host's data for a transfer, if any is expected, goes to an allowed buffer. -/
def Transfer.Expects (allowed : GuestBuffer → Prop) (t : Transfer) : Prop :=
  ∀ kind g, t.destination kind = some g → allowed g

namespace Transfer

variable {allowed : GuestBuffer → Prop} {t : Transfer}

theorem expects_of_none (hc : t.controlDestination = none) (he : t.endpointDestination = none) :
    t.Expects allowed := by
  intro kind g hg
  cases kind with
  | control => exact nomatch hc.symm.trans hg
  | interrupt | isochronous => exact nomatch he.symm.trans hg

theorem Expects.withDestination (h : t.Expects allowed) (kind : TransferKind)
    {buffer : Option GuestBuffer} (hb : ∀ g, buffer = some g → allowed g) :
    (t.withDestination kind buffer).Expects allowed := by
  intro k g hg
  cases kind <;> cases k <;> first | exact hb g hg | exact h .control g hg | exact h .interrupt g hg

end Transfer

theorem Transfer.settle_of_busy {now : UInt64} {t : Transfer} (h : (t.settle now).busy = true) :
    t.settle now = t := by
  cases hs : t.scheduled with
  | none => exact settle_of_none hs
  | some e =>
    by_cases hd : now < e.dueAt
    · exact settle_of_lt hs hd
    · rw [settle_of_due hs hd] at h
      exact nomatch h

/-! ## Services -/

namespace Service

/-- What holds of a service that began as `v` when it has come to `v'`, whoever serves. -/
structure Follows (allowed : GuestBuffer → Prop) (v v' : Service) : Prop where
  id_eq : v'.id = v.id
  pending : v.agenda.pending <+: v'.agenda.pending
  expects : v.transfer.Expects allowed → v'.transfer.Expects allowed

namespace Follows

variable {allowed : GuestBuffer → Prop} {v v' v'' : Service}

theorem refl (v : Service) : v.Follows allowed v := ⟨rfl, List.prefix_rfl, fun h => h⟩

theorem trans (h : v.Follows allowed v') (h' : v'.Follows allowed v'') : v.Follows allowed v'' :=
  ⟨h'.id_eq.trans h.id_eq, h.pending.trans h'.pending, fun he => h'.expects (h.expects he)⟩

/-- Guest memory and what is prepared for the host are no matter of the transfer. -/
theorem of_eq (ht : v'.transfer = v.transfer) (ha : v'.agenda = v.agenda) :
    v.Follows allowed v' := by
  refine ⟨congrArg Transfer.id ht, ⟨[], ?_⟩, fun h => ?_⟩
  · rw [ha, List.append_nil]
  · rwa [ht]

theorem writeGuest (v : Service) (b : GuestBuffer) (data : Bytes) :
    v.Follows allowed (v.writeGuest b data) := of_eq rfl rfl

theorem poke (v : Service) (addr : UInt64) (data : Bytes) :
    v.Follows allowed (v.poke addr data) := of_eq rfl rfl

theorem submit (v : Service) (t : HostTransfer) : v.Follows allowed (v.submit t) := of_eq rfl rfl

theorem schedule (v : Service) (status : TransferStatus) (count : Nat) :
    v.Follows allowed (v.schedule status count) :=
  ⟨rfl, List.prefix_append .., fun h => h⟩

theorem finish (v : Service) (status : TransferStatus) (count : Nat) :
    v.Follows allowed (v.finish status count) :=
  ⟨rfl, List.prefix_rfl, fun _ => Transfer.expects_of_none rfl rfl⟩

theorem prepared (v : Service) (kind : TransferKind) (buffer : Option GuestBuffer)
    (t : HostTransfer) (hb : v.transfer.Expects allowed → ∀ g, buffer = some g → allowed g) :
    v.Follows allowed
      { v with transfer := v.transfer.withDestination kind buffer, submission := some t } := by
  refine ⟨?_, List.prefix_rfl, fun h => h.withDestination kind (hb h)⟩
  cases kind <;> rfl

end Follows

end Service

/-- Whatever steps a procedure takes, it can do no more than a service allows. -/
theorem Procedure.follows_run {σ : Type} {allowed : GuestBuffer → Prop} (p : Procedure σ)
    (v : Service) (s : σ) : v.Follows allowed (p.run v s).1 := by
  induction p generalizing v s with
  | done => exact .refl v
  | look next ih => exact ih s v s
  | change world next ih => exact ih v world
  | inspect next ih => exact ih _ _ v s
  | read b next ih => exact ih _ v s
  | write b data next ih => exact .trans (.writeGuest v b data) (ih _ _ s)
  | poke addr data next ih => exact .trans (.poke v addr data) (ih _ s)
  | schedule status count next ih => exact .trans (.schedule v status count) (ih _ s)
  | finish status count next ih => exact .trans (.finish v status count) (ih _ s)
  | submit t next ih => exact .trans (.submit v t) (ih _ s)

/-! ## Devices -/

theorem Emulated.follows_conclude {allowed : GuestBuffer → Prop} (v : Service) (isIn : Bool)
    (b : GuestBuffer) (data : Bytes) (count : Nat) :
    v.Follows allowed (conclude v isIn b data count) := by
  unfold conclude
  dsimp only
  split
  · exact .trans (.writeGuest ..) (.schedule ..)
  · exact .schedule ..

theorem Emulated.follows_interruptTransfer {σ : Type} {allowed : GuestBuffer → Prop}
    (d : Emulated σ) (v : Service) (s : σ) (endpoint : UInt8) (buffer : GuestBuffer) :
    v.Follows allowed (d.interruptTransfer endpoint buffer v s).1 := by
  unfold interruptTransfer
  split
  · exact .refl v
  · dsimp only
    split
    · exact .refl v
    · exact follows_conclude ..

namespace Passthrough

variable {allowed : GuestBuffer → Prop} (d : Passthrough) (v : Service)

theorem follows_controlTransfer (setup : SetupPacket) (buffer : GuestBuffer)
    (h : setup.isIn = true → ∀ g, g.Within buffer → allowed g) :
    v.Follows allowed (d.controlTransfer setup buffer v) := by
  unfold controlTransfer
  split
  · exact .finish ..
  · refine .prepared v .control (if setup.isIn then some _ else none) _ fun _ g hg => ?_
    split at hg
    · rename_i hin
      obtain rfl := Option.some.inj hg
      exact h hin _ (buffer.truncated_within _)
    · exact nomatch hg

/-- The buffer of an endpoint transfer is a destination only if the endpoint is an IN endpoint. -/
theorem follows_expecting (endpoint : UInt8) (buffer : GuestBuffer) (t : HostTransfer)
    (h : isInEndpoint endpoint = true → allowed buffer) :
    v.Follows allowed
      { v with transfer := expecting v.transfer endpoint buffer, submission := some t } := by
  rw [expecting_eq]
  refine .prepared v .interrupt _ t fun hv g hg => ?_
  split at hg
  · rename_i hin
    obtain rfl := Option.some.inj hg
    exact h hin
  · exact hv .interrupt g hg

theorem follows_interruptTransfer (endpoint : UInt8) (buffer : GuestBuffer)
    (h : isInEndpoint endpoint = true → ∀ g, g.Within buffer → allowed g) :
    v.Follows allowed (d.interruptTransfer endpoint buffer v) := by
  unfold interruptTransfer
  split
  · exact .finish ..
  · exact follows_expecting v _ _ _ fun hin => h hin _ (buffer.truncated_within _)

theorem follows_isochronousTransfer
    (h : isInEndpoint v.transfer.iso.endpoint = true →
      ∀ g, g.Within v.transfer.iso.buffer → allowed g) :
    v.Follows allowed (d.isochronousTransfer v) := by
  unfold isochronousTransfer
  split
  · exact .finish ..
  · exact follows_expecting v _ _ _ fun hin => h hin _ (v.transfer.iso.buffer.truncated_within _)

end Passthrough

namespace Device

variable {σ : Type} {allowed : GuestBuffer → Prop} (d : Device σ) (v : Service) (s : σ)

theorem follows_controlTransfer (setup : SetupPacket) (buffer : GuestBuffer)
    (h : setup.isIn = true → ∀ g, g.Within buffer → allowed g) :
    v.Follows allowed (d.controlTransfer setup buffer v s).2.1 := by
  cases d with
  | emulated e => exact Emulated.follows_conclude ..
  | passthrough p => exact p.follows_controlTransfer v setup buffer h
  | external x => exact Procedure.follows_run ..

theorem follows_interruptTransfer (endpoint : UInt8) (buffer : GuestBuffer)
    (h : isInEndpoint endpoint = true → ∀ g, g.Within buffer → allowed g) :
    v.Follows allowed (d.interruptTransfer endpoint buffer v s).2.1 := by
  cases d with
  | emulated e => exact e.follows_interruptTransfer v s endpoint buffer
  | passthrough p => exact p.follows_interruptTransfer v endpoint buffer h
  | external x => exact Procedure.follows_run ..

theorem follows_isochronousTransfer
    (h : isInEndpoint v.transfer.iso.endpoint = true →
      ∀ g, g.Within v.transfer.iso.buffer → allowed g) :
    v.Follows allowed (d.isochronousTransfer v s).2.1 := by
  cases d with
  | emulated e => exact .refl v
  | passthrough p => exact p.follows_isochronousTransfer v h
  | external x => exact Procedure.follows_run ..

end Device

/-! ## Effects without a device -/

namespace Bus.Effect

variable {σ : Type} {b b' : Bus σ} {op : Operation σ} {a : Answer}

theorem named (h : b.Effect op a b') (ha : Past.acceptedBy (op, a) = none) (hn : b.pool.Named) :
    b'.pool.Named := by
  cases h with
  | quiet _ hq | attached hq => rwa [hq.pool]
  | refused | stored => exact hn
  | accepted hop => exact nomatch (Past.acceptedBy_of_ok hop).symm.trans ha
  | @reported c t _ ht _ hq =>
    rw [hq.pool]
    exact hn.set ((Transfer.id_clearDestination c.kind).trans (hn.id_eq ht))
  | @failed id e t ht => exact hn.set (show t.id = id from hn.id_eq ht)
  | pumped now => exact (Agenda.swept_pump b.agenda b.pool now).named hn

theorem latency_eq (h : b.Effect op a b') (ha : Past.acceptedBy (op, a) = none) :
    b'.latency = b.latency := by
  cases h with
  | quiet _ hq | attached hq | reported _ _ hq => exact congrArg Ledger.latency hq.ledger
  | accepted hop => exact nomatch (Past.acceptedBy_of_ok hop).symm.trans ha
  | refused | failed | pumped | stored => rfl

/-- A slot that is busy afterwards was so before, and is just as it was. -/
theorem busy_of_none (h : b.Effect op a b') (ha : Past.acceptedBy (op, a) = none)
    {id : TransferId} {t : Transfer} (ht : b'.pool.get? id = some t) (hbusy : t.busy = true) :
    b.pool.get? id = some t := by
  have of_set {j : TransferId} {old u : Transfer} (hold : b.pool.get? j = some old)
      (hu : u.busy = false) (ht : (b.pool.set j u).get? id = some t) : b.pool.get? id = some t := by
    rw [TransferPool.get?_set_of_get? hold] at ht
    split at ht
    · obtain rfl := Option.some.inj ht
      exact nomatch hu.symm.trans hbusy
    · exact ht
  cases h with
  | quiet _ hq | attached hq => rwa [hq.pool] at ht
  | refused | stored => exact ht
  | accepted hop => exact nomatch (Past.acceptedBy_of_ok hop).symm.trans ha
  | reported hold _ hq =>
    rw [hq.pool] at ht
    exact of_set hold rfl ht
  | failed hold => exact of_set hold rfl ht
  | pumped now =>
    have hget := (Agenda.swept_pump b.agenda b.pool now).get? id
    obtain ⟨old, hold, rfl⟩ := Option.map_eq_some_iff.1 (hget.symm.trans ht)
    split at hbusy
    · rw [hold, if_pos ‹_›, Transfer.settle_of_busy hbusy]
    · rw [hold, if_neg ‹_›]

end Bus.Effect

/-! ## Calls -/

namespace Bus

variable {σ : Type}

/-- What an accepted submission changes on a bus, whatever device serves it. -/
structure Admitted (op : Operation σ) (b : Bus σ) (d : Dispatch) (b' : Bus σ) : Prop where
  idle : ∃ old, b.pool.get? d.id = some old ∧ old.busy = false
  expects : ∃ t, b'.pool.get? d.id = some t ∧ t.Expects op.Covers
  other : ∀ id, id ≠ d.id → b'.pool.get? id = b.pool.get? id
  pending : b.agenda.pending <+: b'.agenda.pending
  named : b'.pool.Named
  latency : b'.latency = b.latency

variable (host : Host σ) {b : Bus σ} (s : σ)

theorem admitted_dispatch (hn : b.pool.Named) {op : Operation σ} {h : Handle} {iso : IsoRequest}
    {serve : Device σ → Service → σ → Device σ × Service × σ}
    (hserve : ∀ (d : Device σ) (v : Service) (s : σ), v.transfer.iso = iso →
      v.Follows op.Covers (serve d v s).2.1) (now : UInt64) :
    (∃ e, b.dispatch h now iso serve s = (.error e, b, s)) ∨
      ∃ d, (b.dispatch h now iso serve s).1 = .ok d ∧
        b.Admitted op d (b.dispatch h now iso serve s).2.1 := by
  rcases dispatch_eq hn (fun _ d _ v s hv => (hserve d v s hv).id_eq) now s with
    he | ⟨key, d, old, cursor, r, -, hold, hbusy, hr, he⟩
  · exact .inl he
  · have hv := hserve d
      (b.serviceOf { id := old.id, busy := true, owner := some h.location, iso } now) s rfl
    rw [← hr] at hv
    have hget (id) := TransferPool.get?_set_of_get? hold r.2.1.transfer id
    rw [he]
    refine .inr ⟨_, rfl, ⟨old, hold, hbusy⟩, ?_, fun id hne => ?_, hv.pending, ?_, rfl⟩
    · exact ⟨_, (hget old.id).trans (if_pos rfl), hv.expects (Transfer.expects_of_none rfl rfl)⟩
    · exact (hget id).trans (if_neg fun e => hne e.symm)
    · exact hn.set hv.id_eq

theorem admitted_submitControl (hn : b.pool.Named) (h : Handle) (setup : SetupPacket)
    (buffer : GuestBuffer) (now : UInt64) :
    (∃ e, b.submitControl h setup buffer now s = (.error e, b, s)) ∨
      ∃ d, (b.submitControl h setup buffer now s).1 = .ok d ∧
        b.Admitted (.submitControl h setup buffer now) d
          (b.submitControl h setup buffer now s).2.1 := by
  refine admitted_dispatch s hn (fun d v s _ => ?_) now
  exact d.follows_controlTransfer v s setup buffer fun hin _ hg => ⟨hin, buffer, rfl, hg⟩

theorem admitted_submitInterrupt (hn : b.pool.Named) (h : Handle) (endpoint : UInt8)
    (buffer : GuestBuffer) (now : UInt64) :
    (∃ e, b.submitInterrupt h endpoint buffer now s = (.error e, b, s)) ∨
      ∃ d, (b.submitInterrupt h endpoint buffer now s).1 = .ok d ∧
        b.Admitted (.submitInterrupt h endpoint buffer now) d
          (b.submitInterrupt h endpoint buffer now s).2.1 := by
  refine admitted_dispatch s hn (fun d v s _ => ?_) now
  exact d.follows_interruptTransfer v s endpoint buffer fun hin _ hg => ⟨hin, buffer, rfl, hg⟩

theorem admitted_submitIsochronous (hn : b.pool.Named) (h : Handle) (request : IsoRequest)
    (now : UInt64) :
    (∃ e, b.submitIsochronous h request now s = (.error e, b, s)) ∨
      ∃ d, (b.submitIsochronous h request now s).1 = .ok d ∧
        b.Admitted (.submitIsochronous h request now) d
          (b.submitIsochronous h request now s).2.1 := by
  unfold submitIsochronous
  split
  · exact .inl ⟨_, rfl⟩
  · refine admitted_dispatch s hn (fun d v s hv => ?_) now
    apply d.follows_isochronousTransfer v s
    rw [hv]
    exact fun hin _ hg => ⟨hin, request.buffer, rfl, hg⟩

theorem effect_or_admitted_of_dispatch {op : Operation σ} {kind : TransferKind}
    (hop : op.submits = some kind) {r : Except UsbError Dispatch × Bus σ × σ}
    (h : (∃ e, r = (.error e, b, s)) ∨ ∃ d, r.1 = .ok d ∧ b.Admitted op d r.2.1) :
    (b.Effect op (.dispatch r.1) r.2.1 ∧ Past.acceptedBy (op, .dispatch r.1) = none) ∨
      ∃ kind d, Past.acceptedBy (op, .dispatch r.1) = some (kind, d) ∧ b.Admitted op d r.2.1 := by
  rcases h with ⟨e, rfl⟩ | ⟨d, hd, hadm⟩
  · exact .inl ⟨.refused e, rfl⟩
  · rw [hd]
    exact .inr ⟨kind, d, Past.acceptedBy_of_ok hop, hadm⟩

/-- A call has an effect in which no device has a part, or some device serves a transfer. -/
theorem effect_or_admitted (hn : b.pool.Named) (op : Operation σ) :
    (b.Effect op (b.call host s op).1 (b.call host s op).2.1 ∧
        Past.acceptedBy (op, (b.call host s op).1) = none) ∨
      ∃ kind d, Past.acceptedBy (op, (b.call host s op).1) = some (kind, d) ∧
        b.Admitted op d (b.call host s op).2.1 := by
  cases hop : op.submits with
  | none => exact .inl ⟨effect_of_submits_none host s hop, Past.acceptedBy_of_submits_none hop _⟩
  | some kind =>
    cases op with
    | submitControl h setup buffer now =>
      exact effect_or_admitted_of_dispatch s hop (admitted_submitControl s hn h setup buffer now)
    | submitInterrupt h endpoint buffer now =>
      exact effect_or_admitted_of_dispatch s hop
        (admitted_submitInterrupt s hn h endpoint buffer now)
    | submitIsochronous h request now =>
      exact effect_or_admitted_of_dispatch s hop (admitted_submitIsochronous s hn h request now)
    | _ => exact nomatch hop

/-- Whether the slots of a bus are named, and emulated transfers take the given time. -/
structure Ready (latency : UInt64) (b : Bus σ) : Prop where
  named : b.pool.Named
  latency : b.latency = latency

theorem Ready.call {latency : UInt64} (h : b.Ready latency) (op : Operation σ) :
    (b.call host s op).2.1.Ready latency := by
  rcases effect_or_admitted host s h.named op with ⟨he, hnone⟩ | ⟨kind, d, -, hadm⟩
  · exact ⟨he.named hnone h.named, (he.latency_eq hnone).trans h.latency⟩
  · exact ⟨hadm.named, hadm.latency.trans h.latency⟩

end Bus

end VirtualUsb
