import VirtualUsb.Proofs.Transfer.Serving

/-!
# What a call does to the transfers

`Bus.Effect` lists what a call of a bus with built-in devices can do to the transfers: nothing at
all, a claim of a slot, an end by a report or a refusal of the host, or a pump of the agenda
(`Bus.effect_call`). What runs keep is proved from these effects, without a look at the calls.
-/

namespace VirtualUsb.Bus

variable {σ : Type}

/-- The bus with the transfer of a report ended, before the bus looks at the device. -/
def delivered (b : Bus σ) (c : Completion) (t : Transfer) : Bus σ :=
  { b with pool := b.pool.set c.id (t.deliver c), memory := t.deliverData c b.memory }

/-- What a call that was answered in some way does to a bus. -/
inductive Effect (b : Bus σ) : Operation σ → Answer → Bus σ → Prop
  | quiet {op : Operation σ} {a : Answer} {b' : Bus σ} (hop : op.submits = none)
      (h : b.Quiet b') : Effect b op a b'
  | attached {d : Device σ} {a : Answer} {b' : Bus σ}
      (h : Quiet { b with roster := b.roster.enroll d } b') : Effect b (.attach d) a b'
  | refused {op : Operation σ} (e : UsbError) : Effect b op (.dispatch (.error e)) b
  | accepted {op : Operation σ} {kind : TransferKind} {d : Dispatch} {b' : Bus σ}
      (hop : op.submits = some kind) (h : Accepted kind b d b') :
      Effect b op (.dispatch (.ok d)) b'
  | reported {c : Completion} {t : Transfer} {b' : Bus σ} (ht : b.pool.get? c.id = some t)
      (hw : awaitsHost t = true) (h : (b.delivered c t).Quiet b') :
      Effect b (.complete c) .done b'
  | failed {id : TransferId} {e : HostError} {t : Transfer} (ht : b.pool.get? id = some t)
      (hw : awaitsHost t = true) :
      Effect b (.fail id e) .done { b with pool := b.pool.set id (t.finish (.ofHost e) 0) }
  | pumped (now : UInt64) : Effect b (.pump now) (.count (b.pump now).1) (b.pump now).2
  | stored (addr : UInt64) (data : Bytes) :
      Effect b (.store addr data) .done { b with memory := b.memory.write addr data }

variable (host : Host σ) {b : Bus σ} (s : σ)

/-! ## Ends -/

theorem awaitsHost_iff {t : Transfer} :
    awaitsHost t = true ↔ t.busy = true ∧ t.scheduled = none := by
  unfold awaitsHost Transfer.isScheduled
  rw [Bool.and_eq_true, Bool.not_eq_true', Option.isSome_eq_false_iff, Option.isNone_iff_eq_none]

theorem complete_of_awaitsHost {c : Completion} {t : Transfer} (ht : b.pool.get? c.id = some t)
    (hw : awaitsHost t = true) : (b.delivered c t).Quiet (b.complete host c s).1 := by
  unfold complete
  rw [ht]
  dsimp only
  rw [if_pos hw]
  split
  · exact quiet_disconnectAt host _ s _ true
  · exact .refl _

theorem effect_complete (c : Completion) :
    b.Effect (.complete c) .done (b.complete host c s).1 := by
  cases ht : b.pool.get? c.id with
  | none =>
    refine .quiet rfl ?_
    unfold complete
    rw [ht]
    exact .refl b
  | some t =>
    by_cases hw : awaitsHost t = true
    · exact .reported ht hw (complete_of_awaitsHost host s ht hw)
    · refine .quiet rfl ?_
      unfold complete
      rw [ht]
      dsimp only
      rw [if_neg hw]
      exact .refl b

theorem fail_of_awaitsHost {id : TransferId} {e : HostError} {t : Transfer}
    (ht : b.pool.get? id = some t) (hw : awaitsHost t = true) :
    b.fail id e = { b with pool := b.pool.set id (t.finish (.ofHost e) 0) } := by
  unfold fail
  rw [ht]
  exact if_pos hw

theorem effect_fail (id : TransferId) (e : HostError) :
    b.Effect (.fail id e) .done (b.fail id e) := by
  cases ht : b.pool.get? id with
  | none =>
    refine .quiet rfl ?_
    unfold fail
    rw [ht]
    exact .refl b
  | some t =>
    by_cases hw : awaitsHost t = true
    · rw [fail_of_awaitsHost ht hw]
      exact .failed ht hw
    · refine .quiet rfl ?_
      unfold fail
      rw [ht]
      dsimp only
      rw [if_neg hw]
      exact .refl b

/-! ## Calls -/

/-- What a call does that submits no transfer, whatever devices there are. -/
theorem effect_of_submits_none {op : Operation σ} (hop : op.submits = none) :
    b.Effect op (b.call host s op).1 (b.call host s op).2.1 := by
  cases op with
  | attach d => exact .attached (quiet_attach host b s d)
  | submitControl | submitInterrupt | submitIsochronous => exact nomatch hop
  | complete c => exact effect_complete host s c
  | fail id e => exact effect_fail id e
  | pump now => exact .pumped now
  | store addr data => exact .stored addr data
  -- no other call ends a transfer
  | _ => exact .quiet rfl (quiet_call host b s trivial)

section

variable (hn : b.pool.Named) (hr : b.roster.AllBuiltIn)

include hn hr

theorem effect_dispatch {op : Operation σ} {kind : TransferKind} (hop : op.submits = some kind)
    {serve : Device σ → Service → σ → Device σ × Service × σ}
    (hserve : ∀ d v s, d.IsBuiltIn → Served kind v (serve d v s).2.1)
    (hid : ∀ d v s, (serve d v s).1.identity = d.identity)
    (h : Handle) (now : UInt64) (iso : IsoRequest) :
    b.Effect op (.dispatch (b.dispatch h now iso serve s).1) (b.dispatch h now iso serve s).2.1 := by
  rcases dispatch_cases hn hr hserve hid h now iso s with ⟨e, he, hb⟩ | ⟨d, hd, hacc⟩
  · rw [he, hb]
    exact .refused e
  · rw [hd]
    exact .accepted hop hacc

theorem effect_submitControl (h : Handle) (setup : SetupPacket) (buffer : GuestBuffer)
    (now : UInt64) :
    b.Effect (.submitControl h setup buffer now) (.dispatch (b.submitControl h setup buffer now s).1)
      (b.submitControl h setup buffer now s).2.1 :=
  effect_dispatch s hn hr rfl (fun _ v s hd => Device.served_controlTransfer hd v s setup buffer)
    (fun d v s => d.identity_controlTransfer s setup buffer v) h now {}

theorem effect_submitInterrupt (h : Handle) (endpoint : UInt8) (buffer : GuestBuffer)
    (now : UInt64) :
    b.Effect (.submitInterrupt h endpoint buffer now)
      (.dispatch (b.submitInterrupt h endpoint buffer now s).1)
      (b.submitInterrupt h endpoint buffer now s).2.1 :=
  effect_dispatch s hn hr rfl
    (fun _ v s hd => Device.served_interruptTransfer hd v s endpoint buffer)
    (fun d v s => d.identity_interruptTransfer s endpoint buffer v) h now {}

theorem effect_submitIsochronous (h : Handle) (request : IsoRequest) (now : UInt64) :
    b.Effect (.submitIsochronous h request now) (.dispatch (b.submitIsochronous h request now s).1)
      (b.submitIsochronous h request now s).2.1 := by
  unfold submitIsochronous
  split
  · exact .refused .invalidArgument
  · exact effect_dispatch s hn hr rfl
      (fun _ v s hd => Device.served_isochronousTransfer hd v s)
      (fun d v s => d.identity_isochronousTransfer s v) h now request

end

theorem effect_call (hn : b.pool.Named) (hr : b.roster.AllBuiltIn) (op : Operation σ) :
    b.Effect op (b.call host s op).1 (b.call host s op).2.1 := by
  cases op with
  | submitControl h setup buffer now => exact effect_submitControl s hn hr h setup buffer now
  | submitInterrupt h endpoint buffer now => exact effect_submitInterrupt s hn hr h endpoint buffer now
  | submitIsochronous h request now => exact effect_submitIsochronous s hn hr h request now
  | _ => exact effect_of_submits_none host s rfl

end VirtualUsb.Bus
