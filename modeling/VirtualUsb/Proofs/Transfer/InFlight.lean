import VirtualUsb.Proofs.Transfer.Bookkeeping

/-!
# Transfers in flight

`Traffic` adds to a scene a ticket for each transfer that the host has yet to answer. The host
keeps to its contract: it answers what was handed over, once, in any order and at any time, either
with a report of the transfer's own name and kind or by a refusal (`Traffic.Step`). Then an answer
always finds the slot still waiting for it (`Traffic.answers_arrive`). An answer names no more than
a slot, so this rests on no call giving away a slot that waits for the host (`Bus.Effect.keeps`).
-/

namespace VirtualUsb

/-- Whether a call ends the transfer of that name if it waits for the host. -/
def Operation.Answers {σ : Type} (id : TransferId) : Operation σ → Prop
  | .complete c => c.id = id
  | .fail id' _ => id' = id
  | _ => False

namespace Bus

variable {σ : Type} {b b' : Bus σ} {op : Operation σ} {a : Answer} {id : TransferId} {t : Transfer}

theorem Accepted.ne_of_awaitsHost {kind : TransferKind} {d : Dispatch} (h : Accepted kind b d b')
    (ht : b.pool.get? id = some t) (hw : awaitsHost t = true) : id ≠ d.id := by
  rintro rfl
  obtain ⟨old, hold, hbusy⟩ := h.idle
  obtain rfl := Option.some.inj (hold.symm.trans ht)
  exact nomatch hbusy.symm.trans (awaitsHost_iff.1 hw).1

/-- What a call was accepted as tells what it did. -/
theorem Effect.of_acceptedBy (h : b.Effect op a b') {kind : TransferKind} {d : Dispatch}
    (hd : Past.acceptedBy (op, a) = some (kind, d)) :
    a = .dispatch (.ok d) ∧ op.submits = some kind ∧ Accepted kind b d b' := by
  cases h with
  | accepted hop hacc =>
    rw [Past.acceptedBy_of_ok hop] at hd
    obtain ⟨rfl, rfl⟩ := Prod.mk.inj (Option.some.inj hd)
    exact ⟨rfl, hop, hacc⟩
  | quiet hop =>
    rw [Past.acceptedBy_of_submits_none hop] at hd
    exact nomatch hd
  | attached =>
    rw [Past.acceptedBy_of_submits_none rfl] at hd
    exact nomatch hd
  | refused | reported | failed | pumped | stored => exact nomatch hd

/-- A slot without a scheduled end changes only by being claimed, or by an answer if it is busy. -/
theorem Effect.get?_of_unscheduled (h : b.Effect op a b') (ht : b.pool.get? id = some t)
    (hs : t.scheduled = none)
    (hclaim : ∀ kind d, Past.acceptedBy (op, a) = some (kind, d) → d.id ≠ id)
    (hop : op.Answers id → t.busy = false) : b'.pool.get? id = some t := by
  -- an answer is for a busy slot, so it is not for this one
  have other {id' : TransferId} {t' u : Transfer} (ht' : b.pool.get? id' = some t')
      (hw : awaitsHost t' = true) (hop : id' = id → t.busy = false) :
      (b.pool.set id' u).get? id = some t := by
    rw [TransferPool.get?_set_of_get? ht', if_neg, ht]
    rintro rfl
    obtain rfl := Option.some.inj (ht.symm.trans ht')
    exact nomatch (awaitsHost_iff.1 hw).1.symm.trans (hop rfl)
  cases h with
  | quiet _ hq => rw [hq.pool, ht]
  | attached hq => rw [hq.pool, ht]
  | refused => exact ht
  | accepted hsub hd => rw [hd.other id (hclaim _ _ (Past.acceptedBy_of_ok hsub)).symm, ht]
  | reported hu hw hq =>
    rw [hq.pool]
    exact other hu hw hop
  | failed hu hw => exact other hu hw hop
  | pumped now =>
    refine ((Agenda.swept_pump b.agenda b.pool now).get? id).trans ?_
    rw [ht, Option.map_some, Transfer.settle_of_none hs, ite_self]
  | stored => exact ht

theorem Effect.keeps (h : b.Effect op a b') (ht : b.pool.get? id = some t)
    (hw : awaitsHost t = true) (hop : ¬ op.Answers id) : b'.pool.get? id = some t := by
  refine h.get?_of_unscheduled ht (awaitsHost_iff.1 hw).2 (fun kind d hd => ?_)
    fun ha => absurd ha hop
  exact ((h.of_acceptedBy hd).2.2.ne_of_awaitsHost ht hw).symm

end Bus

/-! ## Tickets -/

/-- How far the host has come with a transfer that it has yet to answer. -/
inductive Ticket.Phase
  | prepared
  | accepted
  | refused (e : HostError)

/-- A transfer of the host that is still to be answered: the name that it was accepted under, its
slot as the submission left it, the transfer prepared for the host, and how often the slot had been
claimed by then. -/
structure Ticket where
  id : TransferId
  slot : Transfer
  transfer : HostTransfer
  claim : Nat
  phase : Ticket.Phase := .prepared

/-- A scene with the tickets of all transfers that are still to be answered. -/
structure Traffic (σ : Type) where
  scene : Scene σ
  tickets : List Ticket := []

namespace Scene

variable {σ : Type}

/-- The ticket for what the latest call submitted to the host, if anything. -/
def newTickets (c : Scene σ) : List Ticket :=
  match c.past.head?.bind Past.acceptedBy with
  | some (_, ⟨id, some transfer⟩) =>
    (c.bus.pool.get? id).toList.map fun slot => { id, slot, transfer, claim := c.past.claims id }
  | _ => []

theorem newTickets_cases (b : Bus σ) (world : σ) (x : Operation σ × Answer) (past : Past σ) :
    newTickets ⟨b, world, x :: past⟩ = [] ∨ ∃ kind id transfer slot,
      Past.acceptedBy x = some (kind, ⟨id, some transfer⟩) ∧ b.pool.get? id = some slot ∧
        newTickets ⟨b, world, x :: past⟩ =
          [{ id, slot, transfer, claim := Past.claims (x :: past) id }] := by
  unfold newTickets
  split
  · rename_i kind id transfer hx
    cases hslot : b.pool.get? id with
    | none => exact .inl rfl
    | some slot => exact .inr ⟨kind, id, transfer, slot, hx, hslot, rfl⟩
  · exact .inl rfl

end Scene

/-- Whether a call may be made at any time: it is no answer of the host, and brings no device that
is not built in. -/
def Operation.IsFree {σ : Type} : Operation σ → Prop
  | .attach d => d.IsBuiltIn
  | .complete _ | .fail .. => False
  | _ => True

namespace Traffic

variable {σ : Type} (host : Host σ)

/-- One step of the bus, its guests or the host. The host may accept or refuse what was prepared,
and it answers each transfer once. -/
inductive Step : Traffic σ → Traffic σ → Prop
  | call {c : Scene σ} {l : List Ticket} (op : Operation σ) (hop : op.IsFree) :
    Step ⟨c, l⟩ ⟨c.after host op, l ++ (c.after host op).newTickets⟩
  | accept {c : Scene σ} {l r : List Ticket} {k : Ticket} (world : σ) (hk : k.phase = .prepared) :
    Step ⟨c, l ++ k :: r⟩ ⟨{ c with world }, l ++ { k with phase := .accepted } :: r⟩
  | refuse {c : Scene σ} {l r : List Ticket} {k : Ticket} (world : σ) (e : HostError)
      (hk : k.phase = .prepared) :
    Step ⟨c, l ++ k :: r⟩ ⟨{ c with world }, l ++ { k with phase := .refused e } :: r⟩
  | report {c : Scene σ} {l r : List Ticket} {k : Ticket} (x : Completion)
      (hk : k.phase = .accepted) (hid : x.id = k.transfer.id) (hkind : x.kind = k.transfer.kind) :
    Step ⟨c, l ++ k :: r⟩ ⟨c.after host (.complete x), l ++ r⟩
  | fail {c : Scene σ} {l r : List Ticket} {k : Ticket} {e : HostError}
      (hk : k.phase = .refused e) :
    Step ⟨c, l ++ k :: r⟩ ⟨c.after host (.fail k.id e), l ++ r⟩

inductive Reached (first : Traffic σ) : Traffic σ → Prop
  | first : Reached first first
  | step {c c' : Traffic σ} : Reached first c → Step host c c' → Reached first c'

end Traffic

/-! ## What tickets promise -/

/-- Whether a ticket is good: its slot is as the submission left it and waits for the host, and it
was not claimed again since. -/
structure Ticket.Good {σ : Type} (k : Ticket) (c : Scene σ) : Prop where
  slot : c.bus.pool.get? k.id = some k.slot
  busy : k.slot.busy = true
  unscheduled : k.slot.scheduled = none
  id_eq : k.transfer.id = k.id
  kind : c.past.kindOf k.id = some k.transfer.kind
  claims : c.past.claims k.id = k.claim

namespace Ticket

variable {σ : Type} {k : Ticket} {c : Scene σ} {op : Operation σ} {a : Answer} {b' : Bus σ}

theorem Good.awaitsHost (h : k.Good c) : Bus.awaitsHost k.slot = true :=
  Bus.awaitsHost_iff.2 ⟨h.busy, h.unscheduled⟩

/-- Only an answer of the host makes a ticket bad. -/
theorem Good.of_effect (h : k.Good c) (he : c.bus.Effect op a b') (hop : ¬ op.Answers k.id)
    (world : σ) : k.Good ⟨b', world, (op, a) :: c.past⟩ := by
  have hne (kind : TransferKind) (d : Dispatch)
      (hd : Past.acceptedBy (op, a) = some (kind, d)) : d.id ≠ k.id :=
    ((he.of_acceptedBy hd).2.2.ne_of_awaitsHost h.slot h.awaitsHost).symm
  refine ⟨he.keeps h.slot h.awaitsHost hop, h.busy, h.unscheduled, h.id_eq, ?_, ?_⟩
  · show Past.kindOf (_ :: c.past) k.id = _
    rw [Past.kindOf_cons_of_ne hne]
    exact h.kind
  · show Past.claims (_ :: c.past) k.id = _
    rw [Past.claims_cons_of_ne hne]
    exact h.claims

/-- A transfer prepared for the host waits in the slot that was just claimed for it. -/
theorem good_of_accepted {kind : TransferKind} {id : TransferId} {slot : Transfer}
    {transfer : HostTransfer} {past : Past σ} (hop : op.submits = some kind)
    (hd : Bus.Accepted kind c.bus ⟨id, some transfer⟩ b') (hslot : b'.pool.get? id = some slot)
    (hpast : past = (op, .dispatch (.ok ⟨id, some transfer⟩)) :: c.past) (world : σ) :
    Good { id, slot, transfer, claim := past.claims id } ⟨b', world, past⟩ := by
  obtain ⟨owner, iso, now, v, hv, hsub, -, hget⟩ := hd.served
  obtain ⟨hid, hkind, hbusy, hs⟩ := hv.of_submission rfl hsub.symm
  obtain rfl := Option.some.inj (hget.symm.trans hslot)
  refine ⟨hslot, hbusy, hs, hid, ?_, rfl⟩
  rw [hpast, Past.kindOf_of_ok hop, hkind]
  exact if_pos rfl

end Ticket

namespace Traffic

variable {σ : Type} {n : Nat} {host : Host σ}

/-- Whether all tickets are good, for different slots, and the transfers in order. -/
structure Sound (n : Nat) (c : Traffic σ) : Prop where
  order : c.scene.InOrder n
  good : ∀ k ∈ c.tickets, k.Good c.scene
  distinct : (c.tickets.map (·.id)).Nodup

namespace Sound

variable {c : Scene σ} {l r : List Ticket} {k : Ticket} {op : Operation σ} {a : Answer} {b' : Bus σ}

theorem good_of_mem (h : Sound n ⟨c, l ++ k :: r⟩) : k.Good c :=
  h.good k (List.mem_append_right l (List.mem_cons_self ..))

/-- The host may take a prepared transfer or leave it. -/
theorem mark (h : Sound n ⟨c, l ++ k :: r⟩) (phase : Ticket.Phase) (world : σ) :
    Sound n ⟨{ c with world }, l ++ { k with phase } :: r⟩ := by
  have keep {k' : Ticket} (hk : k'.Good c) : k'.Good { c with world } :=
    ⟨hk.slot, hk.busy, hk.unscheduled, hk.id_eq, hk.kind, hk.claims⟩
  obtain ⟨hl, hkr⟩ := List.forall_mem_append.1 h.good
  obtain ⟨hk, hr⟩ := List.forall_mem_cons.1 hkr
  refine ⟨⟨h.order.books, h.order.roster⟩, List.forall_mem_append.2 ⟨?_, ?_⟩, ?_⟩
  · intro k' hk'
    exact keep (hl k' hk')
  · refine List.forall_mem_cons.2 ⟨?_, fun k' hk' => keep (hr k' hk')⟩
    exact ⟨hk.slot, hk.busy, hk.unscheduled, hk.id_eq, hk.kind, hk.claims⟩
  · have hd := h.distinct
    rw [List.map_append, List.map_cons] at hd ⊢
    exact hd

/-- An answer of the host takes its ticket, and the others stay good. -/
theorem answer (h : Sound n ⟨c, l ++ k :: r⟩) (he : c.bus.Effect op a b') (hop : c.Permits op)
    (hans : ∀ id, op.Answers id → id = k.id) (world : σ) :
    Sound n ⟨⟨b', world, (op, a) :: c.past⟩, l ++ r⟩ := by
  have hd := h.distinct
  rw [List.map_append, List.map_cons] at hd
  have hd := List.nodup_cons.1 ((List.pairwise_middle Ne.symm).1 hd)
  rw [← List.map_append] at hd
  obtain ⟨hl, hkr⟩ := List.forall_mem_append.1 h.good
  have hgood := List.forall_mem_append.2 ⟨hl, (List.forall_mem_cons.1 hkr).2⟩
  refine ⟨h.order.of_effect he hop world, ?_, hd.2⟩
  intro k' hk'
  apply (hgood k' hk').of_effect he
  intro ha
  apply hd.1
  rw [← hans k'.id ha]
  exact List.mem_map_of_mem hk'

/-- A call that is no answer keeps all tickets good, and so is the ticket that it may bring. -/
theorem call (h : Sound n ⟨c, l⟩) (he : c.bus.Effect op a b') (hop : op.IsFree) (world : σ) :
    Sound n ⟨⟨b', world, (op, a) :: c.past⟩,
      l ++ Scene.newTickets ⟨b', world, (op, a) :: c.past⟩⟩ := by
  have hpermits : c.Permits op := by
    cases op with
    | attach => exact hop
    | complete | fail => exact hop.elim
    | _ => trivial
  have hans (id : TransferId) : ¬ op.Answers id := by
    intro ha
    cases op with
    | complete | fail => exact hop
    | _ => exact ha
  have hold (k : Ticket) (hk : k ∈ l) : k.Good ⟨b', world, (op, a) :: c.past⟩ :=
    (h.good k hk).of_effect he (hans k.id) world
  have horder := h.order.of_effect he hpermits world
  rcases Scene.newTickets_cases b' world (op, a) c.past with
    hnew | ⟨kind, id, transfer, slot, hx, hslot, hnew⟩
  · rw [hnew, List.append_nil]
    exact ⟨horder, hold, h.distinct⟩
  · rw [hnew]
    obtain ⟨rfl, hsub, hacc⟩ := he.of_acceptedBy hx
    refine ⟨horder, ?_, ?_⟩
    · intro k hk
      rcases List.mem_append.1 hk with hk | hk
      · exact hold k hk
      · obtain rfl := List.mem_singleton.1 hk
        exact Ticket.good_of_accepted hsub hacc hslot rfl world
    · rw [List.map_append, List.nodup_append]
      refine ⟨h.distinct, List.pairwise_singleton _ _, ?_⟩
      intro i hi j hj
      obtain ⟨k, hk, rfl⟩ := List.mem_map.1 hi
      obtain rfl := List.mem_singleton.1 hj
      have hgood := h.good k hk
      exact hacc.ne_of_awaitsHost hgood.slot hgood.awaitsHost

/-- Every step keeps the tickets good. -/
theorem step {c c' : Traffic σ} (h : Sound n c) (hs : Step host c c') : Sound n c' := by
  cases hs with
  | @call c l op hop =>
    exact h.call (Bus.effect_call host c.world h.order.books.named h.order.roster op) hop _
  | accept world => exact h.mark .accepted world
  | refuse world e => exact h.mark (.refused e) world
  | @report c l r k x hk hid hkind =>
    have hxid : x.id = k.id := hid.trans h.good_of_mem.id_eq
    refine h.answer (Bus.effect_call host c.world h.order.books.named h.order.roster (.complete x))
      (fun _ _ _ => ?_) (fun id hx => ?_) _
    · rw [hxid, hkind]
      exact h.good_of_mem.kind
    · exact hx.symm.trans hxid
  | @fail c l r k e hk =>
    exact h.answer (Bus.effect_call host c.world h.order.books.named h.order.roster (.fail k.id e))
      trivial (fun id hx => hx.symm) _

theorem empty (h : n ≤ UInt32.size) (latency : UInt64) (memory : Memory) (world : σ) :
    Sound n ⟨⟨Bus.empty n latency memory, world, []⟩, []⟩ :=
  ⟨Scene.inOrder_empty h latency memory world, fun _ hk => (nomatch hk), List.nodup_nil⟩

theorem of_reached {first c : Traffic σ} (h : Reached host first c) (h0 : Sound n first) :
    Sound n c := by
  induction h with
  | first => exact h0
  | step _ hs ih => exact ih.step hs

end Sound

end Traffic

/-! ## Answers -/

/-- Whether a call ends the transfer of a ticket as told and changes no other slot, and what it
makes of the guest's memory. -/
structure Ticket.Settled {σ : Type} (k : Ticket) (b b' : Bus σ) (status : TransferStatus)
    (count : UInt32) (memory : Memory) : Prop where
  result : b'.transferResult k.id = .ok ⟨false, status, count⟩
  other : ∀ id, id ≠ k.id → b'.pool.get? id = b.pool.get? id
  memory : b'.memory = memory

namespace Ticket

variable {σ : Type} {k : Ticket} {c : Scene σ}

theorem settled_of_set {b b' : Bus σ} {t u : Transfer} {m : Memory}
    (ht : b.pool.get? k.id = some t) (hpool : b'.pool = b.pool.set k.id u)
    (hm : b'.memory = m) (hu : u.busy = false) : k.Settled b b' u.status u.count m := by
  have hget (id) : b'.pool.get? id = if k.id = id then some u else b.pool.get? id := by
    rw [hpool]
    exact TransferPool.get?_set_of_get? ht u id
  refine ⟨?_, fun id hid => ?_, hm⟩
  · unfold Bus.transferResult
    rw [hget, if_pos rfl]
    show Except.ok (TransferResult.mk u.busy _ _) = _
    rw [hu]
  · rw [hget, if_neg hid.symm]

theorem Good.complete (h : k.Good c) (host : Host σ) (x : Completion) (hx : x.id = k.transfer.id) :
    k.Settled c.bus (c.bus.complete host x c.world).1 x.status (clampCount x.actualLength)
      (k.slot.deliverData x c.bus.memory) := by
  have hid : x.id = k.id := hx.trans h.id_eq
  have hq := Bus.complete_of_awaitsHost host c.world (hid ▸ h.slot) h.awaitsHost
  refine settled_of_set (u := k.slot.deliver x) h.slot ?_ (congrArg Ledger.memory hq.ledger) rfl
  rw [hq.pool, ← hid]
  rfl

theorem Good.fail (h : k.Good c) (e : HostError) :
    k.Settled c.bus (c.bus.fail k.id e) (.ofHost e) 0 c.bus.memory := by
  rw [Bus.fail_of_awaitsHost h.slot h.awaitsHost]
  exact settled_of_set (u := k.slot.finish (.ofHost e) 0) h.slot rfl rfl rfl

end Ticket

namespace Traffic

variable {σ : Type} {host : Host σ}

/-- **Answers arrive.** Whatever guests, the host and the bus do in whatever order, the slot of each
transfer that the host has yet to answer waits for it and was not claimed again since; no two such
transfers share a slot; and the answer ends the transfer as the host says. -/
theorem answers_arrive {n : Nat} (hn : n ≤ UInt32.size) {latency : UInt64} {memory : Memory}
    {world : σ} {c : Traffic σ}
    (h : Reached host ⟨⟨Bus.empty n latency memory, world, []⟩, []⟩ c) :
    (c.tickets.map (·.id)).Nodup ∧ ∀ k ∈ c.tickets, k.Good c.scene ∧
      (∀ x : Completion, x.id = k.transfer.id →
        ∃ count : UInt32, count.toNat = min x.actualLength 4294967295 ∧
          k.Settled c.scene.bus (c.scene.bus.complete host x c.scene.world).1 x.status count
            (k.slot.deliverData x c.scene.bus.memory)) ∧
      ∀ e : HostError, k.Settled c.scene.bus (c.scene.bus.fail k.id e) (.ofHost e) 0
        c.scene.bus.memory := by
  have sound := Sound.of_reached h (.empty hn latency memory world)
  refine ⟨sound.distinct, fun k hk => ?_⟩
  have hgood := sound.good k hk
  exact ⟨hgood, fun x hx => ⟨_, toNat_clampCount _, hgood.complete host x hx⟩, hgood.fail⟩

/-- A request to a device of the host waits under a good ticket. The host may report more bytes for
it than can be counted, or refuse it. -/
theorem answers_arrive_at_control_request :
    let host : Host Unit :=
      { Host.none with openDevice _ s := (.ok 1, s), claim _ _ s := (.ok (), s) }
    ∃ c : Traffic Unit, c.tickets.map (·.id) = [⟨1⟩] ∧ (∀ k ∈ c.tickets, k.Good c.scene) ∧
      (c.scene.bus.complete host ⟨⟨1⟩, .control, .overflow, 5000000000, [], []⟩ ()).1.transferResult
        ⟨1⟩ = .ok ⟨false, .overflow, 4294967295⟩ ∧
      (c.scene.bus.fail ⟨1⟩ .pipe).transferResult ⟨1⟩ = .ok ⟨false, .stall, 0⟩ := by
  intro host
  have h0 : Reached host ⟨⟨Bus.empty 2 0 (.blank 0), (), []⟩, []⟩ _ := .first
  have h1 := h0.step (.call (.attach (.passthrough
    { state := ⟨default, .ofLayout ({} : DeviceDescriptor), 1, 0⟩, device := default }))
    (Device.isBuiltIn_passthrough _))
  have h2 := h1.step (.call (.openRecord default) trivial)
  have h3 := h2.step (.call (.submitControl default {} {} 0) trivial)
  -- from here on the scene is hidden, as unfolding the three calls again is slow
  obtain ⟨c, hc, hids⟩ : ∃ c, Reached host ⟨⟨Bus.empty 2 0 (.blank 0), (), []⟩, []⟩ c ∧
    c.tickets.map (·.id) = [⟨1⟩] := ⟨_, h3, by decide +kernel⟩
  obtain ⟨k, hk, hid⟩ := List.map_eq_singleton_iff.1 hids
  obtain ⟨-, harrive⟩ := answers_arrive (by decide) hc
  obtain ⟨hgood, hreport, hrefuse⟩ := harrive k (hk ▸ List.mem_singleton_self k)
  obtain ⟨count, hcount, hsettled⟩ := hreport ⟨⟨1⟩, .control, .overflow, 5000000000, [], []⟩
    (hgood.id_eq.trans hid).symm
  obtain rfl : count = 4294967295 := UInt32.toNat_inj.1 hcount
  exact ⟨c, hids, fun k hk => (harrive k hk).1, hid ▸ hsettled.result, hid ▸ (hrefuse .pipe).result⟩

end Traffic

end VirtualUsb
