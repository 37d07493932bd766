import VirtualUsb.Proofs.Bus.Effect

/-!
# The books of the transfers

On a bus with built-in devices the slots, their destinations and the agenda agree after every call
(`Scene.bookkeeping_of_reached`). The books hold for the sake of `Scene.InOrder`, which also tells
the kind that each slot was claimed for, as a report of the host clears the destination of its own
kind only.
-/

namespace VirtualUsb

/-! ## Slots -/

/-- Whether a slot is in order that was last claimed for a transfer of the given kind, if ever. -/
structure Transfer.Tidy (kind : Option TransferKind) (t : Transfer) : Prop where
  idle : t.busy = false →
    t.scheduled = none ∧ t.controlDestination = none ∧ t.endpointDestination = none
  busy : t.busy = true → t.status = .completed ∧ t.count = 0
  control : kind ≠ some .control → t.controlDestination = none
  endpoint : kind = some .control → t.endpointDestination = none
  scheduled : t.isScheduled = true → t.controlDestination = none ∧ t.endpointDestination = none

namespace Transfer

variable {kind : Option TransferKind} {t : Transfer}

theorem isScheduled_eq_false : t.isScheduled = false ↔ t.scheduled = none :=
  Option.isSome_eq_false_iff.trans Option.isNone_iff_eq_none

theorem tidy_of_destinations_none (hs : t.busy = false → t.scheduled = none)
    (hb : t.busy = true → t.status = .completed ∧ t.count = 0)
    (hc : t.controlDestination = none) (he : t.endpointDestination = none) : t.Tidy kind :=
  ⟨fun h => ⟨hs h, hc, he⟩, hb, fun _ => hc, fun _ => he, fun _ => ⟨hc, he⟩⟩

theorem Tidy.single (h : t.Tidy kind) :
    t.controlDestination = none ∨ t.endpointDestination = none := by
  by_cases hk : kind = some .control
  · exact .inr (h.endpoint hk)
  · exact .inl (h.control hk)

theorem tidy_finish (status : TransferStatus) (count : Nat) :
    (t.finish status count).Tidy kind :=
  tidy_of_destinations_none (fun _ => rfl) (fun h => (nomatch h)) rfl rfl

/-- A scheduled transfer expects no data of the host, so its end leaves nothing behind. -/
theorem Tidy.expire (h : t.Tidy kind) {e : ScheduledEnd} (he : t.scheduled = some e) :
    (t.expire e).Tidy kind := by
  have hs : t.isScheduled = true := by
    unfold isScheduled
    rw [he]
    rfl
  obtain ⟨hc, hd⟩ := h.scheduled hs
  exact tidy_of_destinations_none (fun _ => rfl) (fun h => (nomatch h)) hc hd

theorem Tidy.settle (h : t.Tidy kind) (now : UInt64) : (t.settle now).Tidy kind := by
  unfold Transfer.settle
  split
  · exact h
  · rename_i e he
    split
    · exact h
    · exact h.expire he

theorem Tidy.clearDestination {k : TransferKind} (h : t.Tidy (some k)) :
    (t.clearDestination k).controlDestination = none ∧
      (t.clearDestination k).endpointDestination = none := by
  cases k with
  | control => exact ⟨rfl, h.endpoint rfl⟩
  | interrupt => exact ⟨h.control (by decide), rfl⟩
  | isochronous => exact ⟨h.control (by decide), rfl⟩

theorem id_clearDestination (k : TransferKind) : (t.clearDestination k).id = t.id := by
  cases k <;> rfl

theorem scheduled_clearDestination (k : TransferKind) :
    (t.clearDestination k).scheduled = t.scheduled := by
  cases k <;> rfl

theorem Tidy.deliver {c : Completion} (h : t.Tidy (some c.kind)) (hs : t.scheduled = none) :
    (t.deliver c).Tidy (some c.kind) := by
  obtain ⟨hc, he⟩ := h.clearDestination
  exact tidy_of_destinations_none (fun _ => (scheduled_clearDestination c.kind).trans hs)
    (fun h => (nomatch h)) hc he

theorem tidy_withDestination {k : TransferKind} {buffer : Option GuestBuffer}
    (hb : t.busy = true) (hr : t.status = .completed ∧ t.count = 0) (hs : t.scheduled = none)
    (hc : t.controlDestination = none) (he : t.endpointDestination = none) :
    (t.withDestination k buffer).Tidy (some k) := by
  have idle {p : Prop} (h : t.busy = false) : p := nomatch hb.symm.trans h
  have unscheduled {p : Prop} (h : t.isScheduled = true) : p :=
    nomatch (isScheduled_eq_false.2 hs).symm.trans h
  cases k with
  | control =>
    exact ⟨idle, fun _ => hr, fun h => absurd rfl h, fun _ => he, unscheduled⟩
  | interrupt => exact ⟨idle, fun _ => hr, fun _ => hc, fun h => (nomatch h), unscheduled⟩
  | isochronous => exact ⟨idle, fun _ => hr, fun _ => hc, fun h => (nomatch h), unscheduled⟩

end Transfer

/-- Whatever a device makes of a newly claimed slot, the slot is in order. -/
theorem Served.tidy {σ : Type} {kind : TransferKind} {b : Bus σ} {id : TransferId}
    {owner : Option Location} {iso : IsoRequest} {now : UInt64} {v : Service}
    (h : Served kind (b.serviceOf { id, busy := true, owner, iso } now) v) :
    v.transfer.Tidy (some kind) := by
  cases h with
  | idle | scheduled =>
    exact Transfer.tidy_of_destinations_none (fun h => (nomatch h)) (fun _ => ⟨rfl, rfl⟩) rfl rfl
  | refused => exact Transfer.tidy_finish _ _
  | prepared => exact Transfer.tidy_withDestination rfl ⟨rfl, rfl⟩ rfl rfl rfl

/-! ## The agenda -/

/-- Whether an agenda lists exactly the transfers of a pool whose end is scheduled, each once. -/
structure Agenda.Lists (a : Agenda) (p : TransferPool) : Prop where
  nodup : a.pending.Nodup
  mem_iff : ∀ id, id ∈ a.pending ↔ ∃ t, p.get? id = some t ∧ t.isScheduled = true

namespace Agenda.Lists

variable {a : Agenda} {p : TransferPool}

theorem ofCapacity (capacity : Nat) : Agenda.Lists {} (.ofCapacity capacity) := by
  refine ⟨List.nodup_nil, fun id => ⟨fun h => (nomatch h), ?_⟩⟩
  rintro ⟨t, ht, hs⟩
  obtain ⟨id', rfl⟩ := TransferPool.get?_ofCapacity ht
  exact nomatch hs

/-- Whether a transfer stands on the agenda can be read off its slot. -/
theorem mem_iff_of_get? (h : a.Lists p) {id : TransferId} {t : Transfer}
    (ht : p.get? id = some t) : id ∈ a.pending ↔ t.isScheduled = true := by
  rw [h.mem_iff]
  constructor
  · rintro ⟨u, hu, hs⟩
    rw [Option.some.inj (ht.symm.trans hu)]
    exact hs
  · intro hs
    exact ⟨t, ht, hs⟩

/-- A slot may change for another with no scheduled end if it had none itself. -/
theorem set (h : a.Lists p) {id : TransferId} {t u : Transfer} (ht : p.get? id = some t)
    (hs : t.scheduled = none) (hu : u.scheduled = none) : a.Lists (p.set id u) := by
  refine ⟨h.nodup, fun j => ?_⟩
  rw [h.mem_iff, TransferPool.get?_set_of_get? ht]
  by_cases hj : id = j
  · subst hj
    rw [if_pos rfl, ht]
    simp only [Option.some.injEq, exists_eq_left', Transfer.isScheduled, hs, hu]
  · rw [if_neg hj]

/-- A pump takes the transfers that it ends off the agenda, and only these. -/
theorem pump (h : a.Lists p) {now : UInt64} {r : Pumped} (hr : Swept now p [] a.pending r) :
    r.agenda.Lists r.pool := by
  have hpending : r.agenda.pending = a.pending.filter (waits now p) := hr.pending
  refine ⟨hpending ▸ h.nodup.filter _, fun id => ?_⟩
  rw [hpending, List.mem_filter, hr.get? id]
  cases hp : p.get? id with
  | none =>
    have : id ∉ a.pending := by
      rw [h.mem_iff, hp]
      rintro ⟨t, ht, -⟩
      exact nomatch ht
    simp only [this, false_and, Option.map_none, reduceCtorEq, exists_false]
  | some t =>
    rw [Option.map_some, waits_of_get? hp]
    simp only [Option.some.injEq, exists_eq_left']
    by_cases hid : id ∈ a.pending
    · rw [if_pos hid, Transfer.isScheduled_settle]
      exact and_iff_right hid
    · rw [if_neg hid]
      have hs : ¬ t.isScheduled = true := fun hs => hid ((h.mem_iff_of_get? hp).2 hs)
      exact ⟨fun h => absurd h.1 hid, fun h => absurd h hs⟩

end Agenda.Lists

/-- A service either schedules the end of its transfer and notes it, or does neither. -/
theorem Served.pending_eq {kind : TransferKind} {v v' : Service} (h : Served kind v v')
    (hs : v.transfer.scheduled = none) : v'.agenda.pending =
      if v'.transfer.isScheduled then v.agenda.pending ++ [v.id] else v.agenda.pending := by
  cases h with
  | idle => rw [Transfer.isScheduled_eq_false.2 hs, if_neg Bool.false_ne_true]
  | scheduled => rfl
  | refused => rfl
  | prepared buffer =>
    have : (v.transfer.withDestination kind buffer).scheduled = none := by
      cases kind <;> exact hs
    rw [Transfer.isScheduled_eq_false.2 this, if_neg Bool.false_ne_true]

theorem Bus.Accepted.lists {σ : Type} {kind : TransferKind} {b b' : Bus σ} {d : Dispatch}
    (hd : Accepted kind b d b') (h : b.agenda.Lists b.pool) (hnew : d.id ∉ b.agenda.pending) :
    b'.agenda.Lists b'.pool := by
  obtain ⟨owner, iso, now, v, hv, -, hagenda, hget⟩ := hd.served
  have hpending := hv.pending_eq rfl
  rw [← hagenda] at hpending
  refine ⟨?_, fun id => ?_⟩
  · rw [hpending]
    split
    · refine List.nodup_append.2 ⟨h.nodup, List.pairwise_singleton _ _, ?_⟩
      intro x hx y hy hxy
      rw [List.mem_singleton] at hy
      have hxd : x = d.id := hxy.trans hy
      exact hnew (hxd ▸ hx)
    · exact h.nodup
  · rw [hpending]
    have hmem : id ∈ (if v.transfer.isScheduled = true then b.agenda.pending ++ [d.id]
        else b.agenda.pending) ↔
          id ∈ b.agenda.pending ∨ (v.transfer.isScheduled = true ∧ id = d.id) := by
      split <;> simp [*]
    refine hmem.trans ?_
    by_cases hid : id = d.id
    · subst hid
      rw [hget]
      simp only [hnew, Option.some.injEq, exists_eq_left', false_or, and_true]
    · rw [hd.other id hid, ← h.mem_iff]
      simp only [hid, and_false, or_false]

/-! ## Books -/

/-- Whether the slots of a pool, the kinds that they were last claimed for and the agenda agree. -/
structure Books (n : Nat) (kindOf : TransferId → Option TransferKind) (a : Agenda)
    (p : TransferPool) : Prop where
  capacity : p.capacity = n
  named : p.Named
  tidy : ∀ id t, p.get? id = some t → t.Tidy (kindOf id)
  agenda : a.Lists p

namespace Books

variable {n : Nat} {kindOf : TransferId → Option TransferKind} {a : Agenda} {p : TransferPool}

theorem ofCapacity (h : n ≤ UInt32.size) : Books n kindOf {} (.ofCapacity n) := by
  refine ⟨TransferPool.capacity_ofCapacity n, TransferPool.named_ofCapacity h, ?_, .ofCapacity n⟩
  intro id t ht
  obtain ⟨id', rfl⟩ := TransferPool.get?_ofCapacity ht
  exact Transfer.tidy_of_destinations_none (fun _ => rfl) (fun h => (nomatch h)) rfl rfl

theorem set (h : Books n kindOf a p) {id : TransferId} {t u : Transfer}
    (ht : p.get? id = some t) (hs : t.scheduled = none) (hid : u.id = t.id)
    (hu : u.scheduled = none) (htidy : u.Tidy (kindOf id)) : Books n kindOf a (p.set id u) := by
  refine ⟨?_, h.named.set (hid.trans (h.named.id_eq ht)), ?_, h.agenda.set ht hs hu⟩
  · rw [TransferPool.capacity_set]
    exact h.capacity
  · intro j x hx
    rw [TransferPool.get?_set_of_get? ht] at hx
    split at hx
    · rename_i hj
      subst hj
      obtain rfl := Option.some.inj hx
      exact htidy
    · exact h.tidy j x hx

theorem pump (h : Books n kindOf a p) (now : UInt64) :
    Books n kindOf (a.pump p now).agenda (a.pump p now).pool := by
  have hr := Agenda.swept_pump a p now
  refine ⟨hr.capacity.trans h.capacity, hr.named h.named, ?_, h.agenda.pump hr⟩
  intro id t ht
  rw [hr.get? id] at ht
  obtain ⟨x, hx, rfl⟩ := Option.map_eq_some_iff.1 ht
  split
  · exact (h.tidy id x hx).settle now
  · exact h.tidy id x hx

theorem accepted {σ : Type} {b b' : Bus σ} {kind : TransferKind} {d : Dispatch}
    (h : Books n kindOf b.agenda b.pool) (hd : Bus.Accepted kind b d b') :
    Books n (fun id => if d.id = id then some kind else kindOf id) b'.agenda b'.pool := by
  refine ⟨hd.capacity.trans h.capacity, hd.named, ?_, ?_⟩
  · intro id t ht
    by_cases hid : d.id = id
    · subst hid
      obtain ⟨owner, iso, now, v, hv, -, -, hget⟩ := hd.served
      rw [if_pos rfl, ← Option.some.inj (hget.symm.trans ht)]
      exact hv.tidy
    · rw [if_neg hid]
      rw [hd.other id fun e => hid e.symm] at ht
      exact h.tidy id t ht
  · obtain ⟨old, hold, hbusy⟩ := hd.idle
    have hs : old.scheduled = none := ((h.tidy d.id old hold).idle hbusy).1
    refine hd.lists h.agenda ?_
    rw [h.agenda.mem_iff_of_get? hold, Transfer.isScheduled_eq_false.2 hs]
    exact Bool.false_ne_true

end Books

/-! ## Runs -/

/-- What the slots and the agenda of a bus with a number of slots always agree on. -/
structure Bus.Bookkeeping {σ : Type} (n : Nat) (b : Bus σ) : Prop where
  size : b.pool.slots.size = n
  named : ∀ (i : Nat) (t : Transfer), b.pool.slots[i]? = some t → t.id.index.toNat = i
  idle : ∀ t ∈ b.pool.slots, t.busy = false →
    t.scheduled = none ∧ t.controlDestination = none ∧ t.endpointDestination = none
  busy : ∀ t ∈ b.pool.slots, t.busy = true → t.result = ⟨true, .completed, 0⟩
  single : ∀ t ∈ b.pool.slots, t.controlDestination = none ∨ t.endpointDestination = none
  scheduled : ∀ t ∈ b.pool.slots, t.isScheduled = true →
    t.controlDestination = none ∧ t.endpointDestination = none
  nodup : b.agenda.pending.Nodup
  pending : ∀ id, id ∈ b.agenda.pending ↔ ∃ t ∈ b.pool.slots, t.id = id ∧ t.isScheduled = true

theorem Books.bookkeeping {σ : Type} {n : Nat} {kindOf : TransferId → Option TransferKind}
    {b : Bus σ} (h : Books n kindOf b.agenda b.pool) : b.Bookkeeping n := by
  have tidy {t : Transfer} (ht : t ∈ b.pool.slots) :=
    h.tidy t.id t (h.named.mem_slots_iff.1 ht)
  refine ⟨h.capacity, h.named, fun t ht => (tidy ht).idle, fun t ht hb => ?_,
    fun t ht => (tidy ht).single, fun t ht => (tidy ht).scheduled, h.agenda.nodup, fun id => ?_⟩
  · obtain ⟨hstatus, hcount⟩ := (tidy ht).busy hb
    unfold Transfer.result
    rw [hb, hstatus, hcount]
  · rw [h.agenda.mem_iff]
    constructor
    · rintro ⟨t, ht, hs⟩
      have hid := h.named.id_eq ht
      exact ⟨t, h.named.mem_slots_iff.2 (hid ▸ ht), hid, hs⟩
    · rintro ⟨t, ht, rfl, hs⟩
      exact ⟨t, h.named.mem_slots_iff.1 ht, hs⟩

namespace Scene

variable {σ : Type} {host : Host σ} {n : Nat} {c : Scene σ}

/-- What a run of a bus with built-in devices may call: no other devices come to the bus, and a
report of a transfer that waits for the host tells the kind that was submitted. -/
def Permits (c : Scene σ) : Operation σ → Prop
  | .attach d => d.IsBuiltIn
  | .complete r => ∀ t, c.bus.pool.get? r.id = some t → Bus.awaitsHost t = true →
    c.past.kindOf r.id = some r.kind
  | _ => True

structure InOrder (n : Nat) (c : Scene σ) : Prop where
  books : Books n c.past.kindOf c.bus.agenda c.bus.pool
  roster : c.bus.roster.AllBuiltIn

theorem inOrder_empty (h : n ≤ UInt32.size) (latency : UInt64) (memory : Memory) (world : σ) :
    InOrder n ⟨Bus.empty n latency memory, world, []⟩ :=
  ⟨.ofCapacity h, fun _ _ hd => (nomatch hd)⟩

theorem InOrder.of_effect (h : c.InOrder n) {op : Operation σ} {a : Answer} {b' : Bus σ}
    (he : c.bus.Effect op a b') (hop : c.Permits op) (world : σ) :
    InOrder n ⟨b', world, (op, a) :: c.past⟩ := by
  cases he with
  | quiet hop hq =>
    refine ⟨?_, h.roster.of_outlives hq.roster⟩
    show Books n (Past.kindOf (_ :: c.past)) b'.agenda b'.pool
    rw [Past.kindOf_of_submits_none hop, hq.agenda, hq.pool]
    exact h.books
  | attached hq =>
    refine ⟨?_, (h.roster.enroll hop).of_outlives hq.roster⟩
    show Books n (Past.kindOf (_ :: c.past)) b'.agenda b'.pool
    rw [Past.kindOf_of_submits_none rfl, hq.agenda, hq.pool]
    exact h.books
  | refused e => exact ⟨h.books, h.roster⟩
  | accepted hop hd =>
    refine ⟨?_, h.roster.of_outlives hd.roster⟩
    show Books n (Past.kindOf (_ :: c.past)) b'.agenda b'.pool
    rw [Past.kindOf_of_ok hop]
    exact h.books.accepted hd
  | @reported r t _ ht hw hq =>
    refine ⟨?_, h.roster.of_outlives hq.roster⟩
    show Books n (Past.kindOf (_ :: c.past)) b'.agenda b'.pool
    rw [Past.kindOf_of_submits_none rfl, hq.agenda, hq.pool]
    have hs := (Bus.awaitsHost_iff.1 hw).2
    have htidy := h.books.tidy r.id t ht
    have hkind : c.past.kindOf r.id = some r.kind := hop t ht hw
    rw [hkind] at htidy
    refine h.books.set ht hs (Transfer.id_clearDestination r.kind) ?_ ?_
    · exact (Transfer.scheduled_clearDestination r.kind).trans hs
    · rw [hkind]
      exact htidy.deliver hs
  | @failed id e t ht hw =>
    have hs := (Bus.awaitsHost_iff.1 hw).2
    exact ⟨h.books.set ht hs rfl rfl (Transfer.tidy_finish _ _), h.roster⟩
  | pumped now => exact ⟨h.books.pump now, h.roster⟩
  | stored => exact ⟨h.books, h.roster⟩

theorem InOrder.after (h : c.InOrder n) {op : Operation σ} (hop : c.Permits op) :
    (c.after host op).InOrder n :=
  h.of_effect (Bus.effect_call host c.world h.books.named h.roster op) hop _

/-- **The books of the transfers.** Whatever calls are made of a new bus, its slots and its agenda
agree. A new bus takes any number of slots, while their names have 32 bits: that there are names for
all of them is a hypothesis, which accepted settings grant, as they ask for at most 256 slots. -/
theorem bookkeeping_of_reached (hn : n ≤ UInt32.size) {latency : UInt64} {memory : Memory}
    {world : σ} (h : Reached host Permits ⟨Bus.empty n latency memory, world, []⟩ c) :
    c.bus.Bookkeeping n := by
  have order : c.InOrder n := by
    refine h.invariant (inOrder_empty hn latency memory world) ?_
    intro c op hc hop
    exact hc.after hop
  exact order.books.bookkeeping

/-- After a request to an emulated device the books show its transfer on the agenda. -/
theorem bookkeeping_of_control_request :
    ∃ c : Scene Unit, c.bus.agenda.pending = [⟨1⟩] ∧ c.bus.Bookkeeping 2 := by
  have h0 : Reached Host.none Permits ⟨Bus.empty 2 0 (.blank 0), (), []⟩ _ := .first
  have h1 := h0.after (.attach (.emulated (.ofDescriptor {} default))) (Device.isBuiltIn_emulated _)
  have h2 := h1.after (.openRecord default) trivial
  have h3 := h2.after (.submitControl default {} {} 0) trivial
  exact ⟨_, rfl, bookkeeping_of_reached (by decide) h3⟩

end Scene

end VirtualUsb
