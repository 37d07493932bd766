import VirtualUsb.Proofs.Transfer.Pump
import VirtualUsb.Bus.Transfers

/-!
# Pumping twice

A pump looks at nothing but which transfers are due at its time, and ends them for good. So two
pumps, at whatever times, do together what one does at the later of the two
(`Agenda.pump_composes`).
-/

namespace VirtualUsb

/-! ## The later of two times -/

theorem le_later_iff {x t₁ t₂ : UInt64} : x ≤ max t₁ t₂ ↔ x ≤ t₁ ∨ x ≤ t₂ := by
  show x ≤ (if t₁ ≤ t₂ then t₂ else t₁) ↔ _
  simp only [UInt64.le_iff_toNat_le]
  split <;> omega

theorem later_lt_iff {x t₁ t₂ : UInt64} : max t₁ t₂ < x ↔ t₁ < x ∧ t₂ < x := by
  rw [← UInt64.not_le, le_later_iff, not_or, UInt64.not_le, UInt64.not_le]

namespace TransferPool

variable {p : TransferPool} {now t₁ t₂ : UInt64} {i : Nat}

theorem isDue_max : p.IsDue (max t₁ t₂) i ↔ p.IsDue t₁ i ∨ p.IsDue t₂ i := by
  simp only [IsDue, le_later_iff, and_or_left, exists_or]

theorem isDue_expireAt {ended : Finset Nat} :
    (p.expireAt ended).IsDue now i ↔ i ∉ ended ∧ p.IsDue now i := by
  unfold IsDue
  rw [getElem?_expireAt]
  by_cases hi : i ∈ ended
  · simp only [hi, if_true, not_true, false_and, iff_false]
    rintro ⟨e, he, -⟩
    obtain ⟨t, ht, hs⟩ := Option.bind_eq_some_iff.1 he
    obtain ⟨old, -, rfl⟩ := Option.map_eq_some_iff.1 ht
    exact nomatch (Transfer.scheduled_expired old).symm.trans hs
  · simp only [hi, if_false, Option.map_id', not_false_iff, true_and]

end TransferPool

namespace Agenda

variable {pool : TransferPool} {now t₁ t₂ : UInt64} {l : List TransferId} {id : TransferId}

theorem waits_of_not_isDue (h : pool.IsDue t₂ id.index.toNat)
    (hnot : ¬ pool.IsDue t₁ id.index.toNat) : waits t₁ pool id = true := by
  obtain ⟨e, he, -⟩ := h
  exact waits_iff_exists.2 ⟨e, he, UInt64.not_le.1 fun hle => hnot ⟨e, he, hle⟩⟩

theorem waits_max_iff :
    waits (max t₁ t₂) pool id = true ↔ waits t₁ pool id = true ∧ waits t₂ pool id = true := by
  simp only [waits_iff_exists, later_lt_iff]
  constructor
  · rintro ⟨e, he, h₁, h₂⟩
    exact ⟨⟨e, he, h₁⟩, e, he, h₂⟩
  · rintro ⟨⟨e, he, h₁⟩, e', he', h₂⟩
    obtain rfl := Option.some.inj (he.symm.trans he')
    exact ⟨e, he, h₁, h₂⟩

theorem waits_expireAt {ended : Finset Nat} (h : id.index.toNat ∉ ended) :
    waits now (pool.expireAt ended) id = waits now pool id := by
  have hget : (pool.expireAt ended).get? id = pool.get? id := by
    refine (pool.getElem?_expireAt ended _).trans ?_
    simp only [h, if_false, Option.map_id']
    rfl
  rw [waits, hget, waits]

/-! ## The second pump -/

/-- The second pump ends what is due at its time and did not end before. -/
theorem due_expireAt :
    due t₂ (pool.expireAt (due t₁ pool l)) (l.filter (waits t₁ pool)) =
      due t₂ pool l \ due t₁ pool l := by
  ext i
  rw [Finset.mem_sdiff, mem_due, TransferPool.isDue_expireAt, @mem_due t₂ pool]
  constructor
  · rintro ⟨⟨id, hid, hi⟩, hnot, hdue⟩
    exact ⟨⟨⟨id, (List.mem_filter.1 hid).1, hi⟩, hdue⟩, hnot⟩
  · rintro ⟨⟨⟨id, hid, rfl⟩, hdue⟩, hnot⟩
    refine ⟨⟨id, List.mem_filter.2 ⟨hid, waits_of_not_isDue hdue fun h => hnot ?_⟩, rfl⟩, hnot, hdue⟩
    exact mem_due_index.2 ⟨hid, h⟩

theorem due_max : due (max t₁ t₂) pool l = due t₁ pool l ∪ due t₂ pool l := by
  ext i
  rw [Finset.mem_union, mem_due, mem_due, mem_due, TransferPool.isDue_max, and_or_left]

theorem filter_waits_expireAt :
    (l.filter (waits t₁ pool)).filter (waits t₂ (pool.expireAt (due t₁ pool l))) =
      l.filter (waits (max t₁ t₂) pool) := by
  rw [List.filter_filter]
  refine List.filter_congr fun id _ => Bool.eq_iff_iff.2 ?_
  rw [Bool.and_eq_true, waits_max_iff, and_comm]
  refine and_congr_right fun hw => ?_
  rw [waits_expireAt fun h => not_isDue_of_waits hw (mem_due.1 h).2]

theorem pump_pump (a : Agenda) (pool : TransferPool) (t₁ t₂ : UInt64) :
    let first := a.pump pool t₁
    let second := first.agenda.pump first.pool t₂
    (⟨first.completed + second.completed, second.agenda, second.pool⟩ : Pumped) =
      a.pump pool (max t₁ t₂) := by
  simp only [pump_eq, due_expireAt, filter_waits_expireAt, due_max, TransferPool.expireAt_expireAt,
    Finset.union_sdiff_self_eq_union]
  rw [← Finset.card_union_of_disjoint Finset.disjoint_sdiff, Finset.union_sdiff_self_eq_union]

/-- Whether a pump has ended the slots that are due at its time and that the agenda mentions, each
as its end was scheduled, and has counted them; every other slot is as it was, and the entries that
wait on are left in their order. -/
structure EndsDue (now : UInt64) (a : Agenda) (pool : TransferPool) (r : Pumped) : Prop where
  ended : ∀ i ∈ due now pool a.pending, ∃ t e, pool.slots[i]? = some t ∧ t.scheduled = some e ∧
    r.pool.slots[i]? =
      some { t with status := e.status, count := e.count, scheduled := none, busy := false }
  other : ∀ i ∉ due now pool a.pending, r.pool.slots[i]? = pool.slots[i]?
  cursor : r.pool.cursor = pool.cursor
  completed : r.completed = (due now pool a.pending).card
  pending : r.agenda.pending = a.pending.filter (waits now pool)

theorem endsDue_pump (a : Agenda) (pool : TransferPool) (now : UInt64) :
    EndsDue now a pool (a.pump pool now) := by
  rw [pump_eq]
  refine ⟨fun i hi => ?_, fun i hi => ?_, rfl, rfl, rfl⟩
  · obtain ⟨e, he, -⟩ := (mem_due.1 hi).2
    obtain ⟨t, ht, hs⟩ := Option.bind_eq_some_iff.1 he
    refine ⟨t, e, ht, hs, ?_⟩
    rw [TransferPool.getElem?_expireAt, ht, Option.map_some, if_pos hi, Transfer.expired_of_some hs]
    rfl
  · rw [TransferPool.getElem?_expireAt]
    simp only [hi, if_false, Option.map_id']

/-- **Pumps compose.** Whatever stands on the agenda and whatever the slots hold, a pump ends
exactly the slots that the agenda mentions and that are due, each once, and keeps exactly the
entries that wait on. So two pumps leave what one pump at the later of their times leaves, and their
counts add up to its count, also if the second time lies before the first. -/
theorem pump_composes (a : Agenda) (pool : TransferPool) :
    (∀ now, EndsDue now a pool (a.pump pool now)) ∧
    ∀ t₁ t₂,
      let first := a.pump pool t₁
      let second := first.agenda.pump first.pool t₂
      let both := a.pump pool (max t₁ t₂)
      second.pool = both.pool ∧ second.agenda = both.agenda ∧
        first.completed + second.completed = both.completed := by
  refine ⟨a.endsDue_pump pool, fun t₁ t₂ => ?_⟩
  obtain ⟨hcompleted, hagenda, hpool⟩ := Pumped.mk.inj (a.pump_pump pool t₁ t₂)
  exact ⟨hpool, hagenda, hcompleted⟩

end Agenda

/-- Two pumps of a bus do together what one does at the later time. -/
theorem Bus.pump_pump {σ : Type} (b : Bus σ) (t₁ t₂ : UInt64) :
    ((b.pump t₁).1 + ((b.pump t₁).2.pump t₂).1, ((b.pump t₁).2.pump t₂).2) =
      b.pump (max t₁ t₂) := by
  have h := b.agenda.pump_pump b.pool t₁ t₂
  show (_, _) = (_, _)
  rw [← h]
  rfl

end VirtualUsb
