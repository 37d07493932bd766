import VirtualUsb.Proofs.Transfer.Pool
import VirtualUsb.Transfer.Agenda
import Mathlib.Data.Finset.Card

/-!
# Pumping the agenda

Whatever stands on the agenda, a pump ends exactly the transfers on it that are due, counts them,
and keeps exactly the entries that wait on (`Agenda.pump_eq`). An entry may be there twice, or name
no slot, or a slot with no end to wait for.
-/

namespace VirtualUsb

namespace Transfer

variable {now : UInt64} {t : Transfer}

/-- The transfer after its scheduled end, if it has one. -/
def expired (t : Transfer) : Transfer := t.scheduled.elim t t.expire

theorem expired_of_some {e : ScheduledEnd} (h : t.scheduled = some e) :
    t.expired = t.expire e := by
  rw [expired, h]
  rfl

@[simp] theorem id_expired (t : Transfer) : t.expired.id = t.id := by
  rw [expired]
  cases t.scheduled <;> rfl

theorem scheduled_expired (t : Transfer) : t.expired.scheduled = none := by
  rw [expired]
  cases h : t.scheduled with
  | none => exact h
  | some e => rfl

theorem expired_expired (t : Transfer) : t.expired.expired = t.expired := by
  cases h : t.scheduled with
  | none =>
    have ht : t.expired = t := by rw [expired, h]; rfl
    rw [ht, ht]
  | some e =>
    rw [expired_of_some h]
    rfl

/-- The transfer at a time: ended if its scheduled end is due. -/
def settle (now : UInt64) (t : Transfer) : Transfer :=
  match t.scheduled with
  | none => t
  | some e => if now < e.dueAt then t else t.expire e

theorem settle_of_none (h : t.scheduled = none) : t.settle now = t := by
  unfold settle
  rw [h]

theorem settle_of_lt {e : ScheduledEnd} (h : t.scheduled = some e) (hd : now < e.dueAt) :
    t.settle now = t := by
  unfold settle
  rw [h]
  exact if_pos hd

theorem settle_of_due {e : ScheduledEnd} (h : t.scheduled = some e) (hd : ¬ now < e.dueAt) :
    t.settle now = t.expire e := by
  unfold settle
  rw [h]
  exact if_neg hd

theorem isScheduled_settle :
    (t.settle now).isScheduled = t.scheduled.any fun e => decide (now < e.dueAt) := by
  cases hs : t.scheduled with
  | none =>
    rw [settle_of_none hs, isScheduled, hs]
    rfl
  | some e =>
    by_cases hd : now < e.dueAt
    · rw [settle_of_lt hs hd, isScheduled, hs, Option.any_some, decide_eq_true hd]
      rfl
    · rw [settle_of_due hs hd, Option.any_some, decide_eq_false hd]
      rfl

end Transfer

namespace TransferPool

variable {p : TransferPool} {now : UInt64} {i : Nat}

def IsDue (now : UInt64) (p : TransferPool) (i : Nat) : Prop :=
  ∃ e ∈ p.slots[i]?.bind (·.scheduled), e.dueAt ≤ now

instance (now : UInt64) (p : TransferPool) : DecidablePred (p.IsDue now) :=
  fun _ => inferInstanceAs (Decidable (∃ e ∈ _, _))

/-- The pool with the transfers of some slots ended as scheduled. -/
def expireAt (p : TransferPool) (ended : Finset Nat) : TransferPool :=
  { p with slots := p.slots.mapIdx fun i t => if i ∈ ended then t.expired else t }

@[simp] theorem capacity_expireAt (p : TransferPool) (ended : Finset Nat) :
    (p.expireAt ended).capacity = p.capacity := Array.size_mapIdx

@[simp] theorem getElem?_expireAt (p : TransferPool) (ended : Finset Nat) (i : Nat) :
    (p.expireAt ended).slots[i]? =
      p.slots[i]?.map fun t => if i ∈ ended then t.expired else t := Array.getElem?_mapIdx

theorem isDue_iff {t : Transfer} (ht : p.slots[i]? = some t) :
    p.IsDue now i ↔ ∃ e, t.scheduled = some e ∧ e.dueAt ≤ now := by
  unfold IsDue
  rw [ht]
  rfl

theorem settle_of_isDue {t : Transfer} (ht : p.slots[i]? = some t) (h : p.IsDue now i) :
    t.settle now = t.expired := by
  obtain ⟨e, he, hle⟩ := (isDue_iff ht).1 h
  rw [Transfer.settle_of_due he (UInt64.not_lt.2 hle), Transfer.expired_of_some he]

theorem settle_of_not_isDue {t : Transfer} (ht : p.slots[i]? = some t) (h : ¬ p.IsDue now i) :
    t.settle now = t := by
  cases hs : t.scheduled with
  | none => exact Transfer.settle_of_none hs
  | some e =>
    refine Transfer.settle_of_lt hs (UInt64.not_le.1 fun hle => h ?_)
    exact (isDue_iff ht).2 ⟨e, hs, hle⟩

theorem isDue_set_of_ne {id : TransferId} (t : Transfer) (h : i ≠ id.index.toNat) :
    (p.set id t).IsDue now i ↔ p.IsDue now i := by
  unfold IsDue set
  rw [Array.getElem?_setIfInBounds_ne (Ne.symm h)]

theorem expireAt_empty (p : TransferPool) : p.expireAt ∅ = p := by
  refine congrArg (TransferPool.mk · p.cursor) (Array.ext_getElem? fun i => ?_)
  simp only [Array.getElem?_mapIdx, Finset.notMem_empty, if_false, Option.map_id']

/-- Ending slots in two rounds is ending them all in one, as no slot ends twice. -/
theorem expireAt_expireAt (p : TransferPool) (s u : Finset Nat) :
    (p.expireAt s).expireAt u = p.expireAt (s ∪ u) := by
  refine congrArg (TransferPool.mk · p.cursor) (Array.ext_getElem? fun i => ?_)
  simp only [expireAt, Array.getElem?_mapIdx, Option.map_map, Finset.mem_union]
  refine congrArg (Option.map · p.slots[i]?) (funext fun t => ?_)
  by_cases hs : i ∈ s <;> by_cases hu : i ∈ u <;>
    simp only [hs, hu, Function.comp_apply, if_true, if_false, or_true, true_or, or_self,
      Transfer.expired_expired]

/-- Ending one slot is ending a set of one. -/
theorem set_expire {id : TransferId} {t : Transfer} {e : ScheduledEnd} (ht : p.get? id = some t)
    (he : t.scheduled = some e) : p.set id (t.expire e) = p.expireAt {id.index.toNat} := by
  refine congrArg (TransferPool.mk · p.cursor) (Array.ext_getElem? fun i => ?_)
  rw [Array.getElem?_setIfInBounds, Array.getElem?_mapIdx]
  simp only [Finset.mem_singleton]
  by_cases hi : i = id.index.toNat
  · subst hi
    have hlt : id.index.toNat < p.slots.size := (Array.getElem?_eq_some_iff.1 ht).1
    rw [if_pos rfl, if_pos hlt, show p.slots[id.index.toNat]? = some t from ht]
    simp only [Option.map_some, if_true, Transfer.expired_of_some he]
  · simp only [if_neg hi, if_neg (Ne.symm hi), Option.map_id']

end TransferPool

namespace Agenda

variable {now : UInt64} {pool : TransferPool} {l : List TransferId}

/-- Whether an entry waits on: its transfer has a scheduled end that is not due. -/
def waits (now : UInt64) (pool : TransferPool) (id : TransferId) : Bool :=
  ((pool.get? id).bind (·.scheduled)).any fun e => decide (now < e.dueAt)

theorem waits_of_get? {id : TransferId} {t : Transfer} (h : pool.get? id = some t) :
    waits now pool id = t.scheduled.any fun e => decide (now < e.dueAt) := by
  unfold waits
  rw [h]
  rfl

theorem waits_iff_exists {id : TransferId} : waits now pool id = true ↔
    ∃ e ∈ (pool.get? id).bind (·.scheduled), now < e.dueAt := by
  simp only [waits, Option.any_eq_true, decide_eq_true_eq, Option.mem_def]

theorem waits_iff {id : TransferId} : waits now pool id = true ↔
    ∃ t e, pool.get? id = some t ∧ t.scheduled = some e ∧ now < e.dueAt := by
  rw [waits_iff_exists]
  constructor
  · rintro ⟨e, he, hlt⟩
    obtain ⟨t, ht, hs⟩ := Option.bind_eq_some_iff.1 he
    exact ⟨t, e, ht, hs, hlt⟩
  · rintro ⟨t, e, ht, hs, hlt⟩
    exact ⟨e, Option.bind_eq_some_iff.2 ⟨t, ht, hs⟩, hlt⟩

theorem not_isDue_of_waits {id : TransferId} (h : waits now pool id = true) :
    ¬ pool.IsDue now id.index.toNat := by
  obtain ⟨e, he, hlt⟩ := waits_iff_exists.1 h
  rintro ⟨e', he', hle⟩
  obtain rfl := Option.some.inj (he.symm.trans he')
  exact UInt64.not_lt.2 hle hlt

/-- Ending a due transfer makes no other entry wait, and this one did not wait before. -/
theorem waits_set_expire {id : TransferId} {t : Transfer} {e : ScheduledEnd}
    (ht : pool.get? id = some t) (he : t.scheduled = some e) (hd : ¬ now < e.dueAt) :
    waits now (pool.set id (t.expire e)) = waits now pool := by
  funext j
  by_cases hj : id = j
  · subst hj
    rw [waits_of_get? ((TransferPool.get?_set_of_get? ht _ _).trans (if_pos rfl)),
      waits_of_get? ht, he]
    show false = decide (now < e.dueAt)
    rw [decide_eq_false hd]
  · rw [waits, waits, TransferPool.get?_set_of_get? ht, if_neg hj]

/-- The slots that are due among those that a row of entries mentions. -/
def due (now : UInt64) (pool : TransferPool) (l : List TransferId) : Finset Nat :=
  (l.map (·.index.toNat)).toFinset.filter (pool.IsDue now)

theorem mem_due {i : Nat} :
    i ∈ due now pool l ↔ (∃ id ∈ l, id.index.toNat = i) ∧ pool.IsDue now i := by
  rw [due, Finset.mem_filter, List.mem_toFinset, List.mem_map]

/-- An entry counts if its slot is due. -/
theorem mem_due_index {id : TransferId} :
    id.index.toNat ∈ due now pool l ↔ id ∈ l ∧ pool.IsDue now id.index.toNat := by
  refine mem_due.trans (and_congr_left' ⟨?_, fun h => ⟨id, h, rfl⟩⟩)
  rintro ⟨j, hj, he⟩
  obtain rfl : j = id := congrArg TransferId.mk (UInt32.toNat_inj.1 he)
  exact hj

theorem due_cons_of_not {id : TransferId} (h : ¬ pool.IsDue now id.index.toNat) :
    due now pool (id :: l) = due now pool l := by
  rw [due, List.map_cons, List.toFinset_cons, Finset.filter_insert, if_neg h, due]

/-- A due entry brings its slot. The entries after it find the slot ended, so that the slot is not
due on their account as well. -/
theorem due_cons_of_due {id : TransferId} {t : Transfer} {e : ScheduledEnd}
    (ht : pool.get? id = some t) (he : t.scheduled = some e) (hd : ¬ now < e.dueAt) :
    id.index.toNat ∉ due now (pool.set id (t.expire e)) l ∧
      due now pool (id :: l) =
        insert id.index.toNat (due now (pool.set id (t.expire e)) l) := by
  have hdue : pool.IsDue now id.index.toNat :=
    (TransferPool.isDue_iff ht).2 ⟨e, he, UInt64.not_lt.1 hd⟩
  have hended : ¬ (pool.set id (t.expire e)).IsDue now id.index.toNat := by
    rw [TransferPool.isDue_iff ((TransferPool.get?_set_of_get? ht _ _).trans (if_pos rfl))]
    rintro ⟨e', he', -⟩
    exact nomatch he'
  refine ⟨fun h => hended (mem_due.1 h).2, Finset.ext fun i => ?_⟩
  rw [Finset.mem_insert, mem_due, mem_due]
  by_cases hi : i = id.index.toNat
  · subst hi
    exact iff_of_true ⟨⟨id, List.mem_cons_self .., rfl⟩, hdue⟩ (.inl rfl)
  · have hmem : (∃ j ∈ id :: l, j.index.toNat = i) ↔ ∃ j ∈ l, j.index.toNat = i := by
      simp only [List.mem_cons, exists_eq_or_imp, Ne.symm hi, false_or]
    rw [hmem, TransferPool.isDue_set_of_ne _ hi, or_iff_right hi]

/-- What a sweep of a row leaves: the entries that wait on behind those kept so far, and the due
slots of the row ended and counted. -/
theorem sweep_eq (l : List TransferId) : ∀ (pool : TransferPool) (n : Nat)
    (kept : List TransferId), sweep now pool n kept l =
      ⟨n + (due now pool l).card, ⟨kept.reverse ++ l.filter (waits now pool)⟩,
        pool.expireAt (due now pool l)⟩ := by
  induction l with
  | nil =>
    intro pool n kept
    rw [sweep, due, List.map_nil, List.toFinset_nil, Finset.filter_empty, Finset.card_empty,
      List.filter_nil, List.append_nil, TransferPool.expireAt_empty, Nat.add_zero]
  | cons id l ih =>
    intro pool n kept
    -- an entry that is neither due nor waiting is forgotten
    have hidle : (pool.get? id).bind (·.scheduled) = none →
        sweep now pool n kept l = ⟨n + (due now pool (id :: l)).card,
          ⟨kept.reverse ++ (id :: l).filter (waits now pool)⟩,
          pool.expireAt (due now pool (id :: l))⟩ := by
      intro h
      have hdue : ¬ pool.IsDue now id.index.toNat := by
        rintro ⟨e, he, -⟩
        exact nomatch h.symm.trans he
      have hw : ¬ waits now pool id = true := by
        rw [waits, h]
        exact Bool.false_ne_true
      rw [ih, due_cons_of_not hdue, List.filter_cons_of_neg hw]
    rw [sweep]
    split
    · rename_i hp
      exact hidle (by rw [hp]; rfl)
    · rename_i t hp
      split
      · rename_i hs
        exact hidle (by rw [hp]; exact hs)
      · rename_i e hs
        split
        · rename_i hd
          have hw : waits now pool id = true := waits_iff.2 ⟨t, e, hp, hs, hd⟩
          rw [ih, due_cons_of_not (not_isDue_of_waits hw), List.filter_cons_of_pos hw,
            List.reverse_cons, List.append_assoc, List.singleton_append]
        · rename_i hd
          have hdue : pool.IsDue now id.index.toNat :=
            (TransferPool.isDue_iff hp).2 ⟨e, hs, UInt64.not_lt.1 hd⟩
          have hw : ¬ waits now pool id = true := fun hw => not_isDue_of_waits hw hdue
          obtain ⟨hnew, hinsert⟩ := due_cons_of_due (l := l) hp hs hd
          rw [ih, hinsert, Finset.card_insert_of_notMem hnew, waits_set_expire hp hs hd,
            List.filter_cons_of_neg hw, Nat.add_assoc, Nat.add_comm 1]
          rw [TransferPool.set_expire hp hs, TransferPool.expireAt_expireAt, ← Finset.insert_eq]

/-- A pump ends the due slots that the agenda mentions, counts them, and keeps the entries that wait
on. -/
theorem pump_eq (a : Agenda) (pool : TransferPool) (now : UInt64) :
    a.pump pool now = ⟨(due now pool a.pending).card, ⟨a.pending.filter (waits now pool)⟩,
      pool.expireAt (due now pool a.pending)⟩ := by
  rw [pump, sweep_eq, Nat.zero_add]
  rfl

/-- What a pump leaves, said of the transfers that have names. -/
structure Swept (now : UInt64) (pool : TransferPool) (kept l : List TransferId) (r : Pumped) :
    Prop where
  pending : r.agenda.pending = kept.reverse ++ l.filter (waits now pool)
  get? : ∀ j, r.pool.get? j = (pool.get? j).map fun t => if j ∈ l then t.settle now else t
  capacity : r.pool.capacity = pool.capacity
  named : pool.Named → r.pool.Named

theorem swept_pump (a : Agenda) (pool : TransferPool) (now : UInt64) :
    Swept now pool [] a.pending (a.pump pool now) := by
  rw [pump_eq]
  refine ⟨rfl, fun j => ?_, pool.capacity_expireAt _, fun hn i t ht => ?_⟩
  · refine (pool.getElem?_expireAt _ _).trans (Option.map_congr fun t ht => ?_)
    by_cases hdue : pool.IsDue now j.index.toNat
    · simp only [mem_due_index, hdue, and_true, TransferPool.settle_of_isDue ht hdue]
    · simp only [mem_due_index, hdue, and_false, if_false,
        TransferPool.settle_of_not_isDue ht hdue, ite_self]
  · rw [TransferPool.getElem?_expireAt] at ht
    obtain ⟨old, hold, rfl⟩ := Option.map_eq_some_iff.1 ht
    rw [apply_ite Transfer.id, Transfer.id_expired, ite_self]
    exact hn i old hold

end Agenda

end VirtualUsb
