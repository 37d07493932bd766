import VirtualUsb.Transfer.Pool
import Mathlib.Data.List.Rotate

/-!
# Claiming slots

The search for a slot goes round the pool, from the slot after the one handed out last, and claims
the first that is idle (`TransferPool.allocate_eq`). In a pool whose slots are named by their
indices, claiming a slot changes no other (`TransferPool.allocate_eq_some`), and a search for one
that goes round in vain ends where it began (`TransferPool.probe_eq`). Names have 32 bits, so only a
pool of at most `2 ^ 32` slots can be named in that way.
-/

namespace VirtualUsb.TransferPool

variable {p q : TransferPool} {t : Transfer}

/-- Whether every slot is named by its index. -/
def Named (p : TransferPool) : Prop :=
  ∀ (i : Nat) (t : Transfer), p.slots[i]? = some t → t.id.index.toNat = i

theorem named_ofCapacity {capacity : Nat} (h : capacity ≤ UInt32.size) :
    (ofCapacity capacity).Named := by
  intro i t ht
  simp only [ofCapacity, Array.getElem?_ofFn] at ht
  split at ht
  · rename_i hi
    rw [← Option.some.inj ht]
    exact UInt32.toNat_ofNat_of_lt' (Nat.lt_of_lt_of_le hi h)
  · cases ht

theorem get?_ofCapacity {capacity : Nat} {id : TransferId}
    (h : (ofCapacity capacity).get? id = some t) : ∃ id', t = { id := id' } := by
  simp only [get?, ofCapacity, Array.getElem?_ofFn] at h
  split at h
  · exact ⟨_, (Option.some.inj h).symm⟩
  · cases h

theorem Named.id_eq (hp : p.Named) {id : TransferId} (h : p.get? id = some t) : t.id = id := by
  obtain ⟨i⟩ := id
  obtain ⟨⟨j⟩⟩ := t
  exact congrArg TransferId.mk (UInt32.toNat_inj.1 (hp i.toNat _ h))

theorem Named.mem_slots_iff (hp : p.Named) : t ∈ p.slots ↔ p.get? t.id = some t := by
  constructor
  · intro h
    obtain ⟨i, hi, rfl⟩ := Array.mem_iff_getElem.1 h
    have hs : p.slots[i]? = some p.slots[i] := Array.getElem?_eq_getElem hi
    rw [get?, hp i _ hs, hs]
  · intro h
    exact Array.mem_of_getElem? h

theorem Named.set (hp : p.Named) {id : TransferId} (ht : t.id = id) : (p.set id t).Named := by
  intro i u hu
  rw [TransferPool.set, Array.getElem?_setIfInBounds] at hu
  split at hu
  · rename_i hi
    split at hu
    · rw [← Option.some.inj hu, ht, hi]
    · cases hu
  · exact hp i u hu

theorem get?_set_of_get? {id : TransferId} {old : Transfer} (h : p.get? id = some old)
    (t : Transfer) (j : TransferId) : (p.set id t).get? j = if id = j then some t else p.get? j := by
  have hlt : id.index.toNat < p.capacity := by
    have := isSome_get? p id
    rw [h, Option.isSome_some] at this
    exact of_decide_eq_true this.symm
  simp only [get?_set, hlt, and_true]

/-! ## The search -/

def isIdle (p : TransferPool) (i : Nat) : Bool := p.slots[i]?.any fun t => !t.busy

def claim? (p : TransferPool) (i : Nat) : Option (Transfer × TransferPool) :=
  p.slots[i]?.map fun t => (t.claimed, ⟨p.slots.setIfInBounds i t.claimed, i⟩)

/-- The slots in the order of the search: all of them, turned so that the one after the slot handed
out last comes first. -/
def round (p : TransferPool) : List Nat := (List.range p.capacity).rotate (p.cursor + 1)

theorem isIdle_iff {i : Nat} : p.isIdle i = true ↔ ∃ t, p.slots[i]? = some t ∧ t.busy = false := by
  simp only [isIdle, Option.any_eq_true, Bool.not_eq_true']

theorem mem_round {i : Nat} : i ∈ p.round ↔ i < p.capacity := by
  rw [round, List.mem_rotate, List.mem_range]

@[simp] theorem length_round (p : TransferPool) : p.round.length = p.capacity := by
  rw [round, List.length_rotate, List.length_range]

theorem getElem_round {k : Nat} (h : k < p.round.length) :
    p.round[k] = (p.cursor + 1 + k) % p.capacity := by
  simp only [round, List.getElem_rotate, List.getElem_range, List.length_range, Nat.add_comm k]

theorem round_eq_map (p : TransferPool) :
    p.round = (List.range p.capacity).map fun k => (p.cursor + 1 + k) % p.capacity := by
  refine List.ext_getElem (by simp) fun k h _ => ?_
  rw [getElem_round h, List.getElem_map, List.getElem_range]

/-- Going on is going round from the next slot. -/
theorem range_succ_map_mod (cursor n size : Nat) :
    ((List.range (n + 1)).map fun k => (cursor + 1 + k) % size) = (cursor + 1) % size ::
      (List.range n).map fun k => ((cursor + 1) % size + 1 + k) % size := by
  rw [List.range_succ_eq_map, List.map_cons, List.map_map, Nat.add_zero]
  refine congrArg _ (List.map_congr_left fun k _ => ?_)
  simp only [Function.comp_apply, Nat.add_assoc, Nat.mod_add_mod, Nat.succ_eq_add_one,
    Nat.add_comm 1 k]

/-- Only an empty pool has no slot at a remainder. -/
theorem size_eq_zero_of_mod {i : Nat} (h : p.slots[i % p.capacity]? = none) : p.slots.size = 0 := by
  rcases Nat.eq_zero_or_pos p.slots.size with hzero | hpos
  · exact hzero
  · exact absurd (Nat.mod_lt _ hpos) (Nat.not_lt.2 (Array.getElem?_eq_none_iff.1 h))

/-- Going round stops at the first idle slot that one comes to, and claims it. -/
theorem sweep_eq (p : TransferPool) (n : Nat) : ∀ cursor, sweep p.slots cursor n =
    (((List.range n).map fun k => (cursor + 1 + k) % p.capacity).find? p.isIdle).bind p.claim? := by
  induction n with
  | zero => exact fun _ => rfl
  | succ n ih =>
    intro cursor
    rw [range_succ_map_mod]
    cases ht : p.slots[(cursor + 1) % p.capacity]? with
    | none =>
      have hfind : ∀ l : List Nat, l.find? p.isIdle = none := by
        refine fun l => List.find?_eq_none.2 fun i _ hi => ?_
        obtain ⟨t, hget, -⟩ := isIdle_iff.1 hi
        exact Nat.not_lt_zero i
          (size_eq_zero_of_mod ht ▸ (Array.getElem?_eq_some_iff.1 hget).1)
      rw [hfind, Option.bind_none]
      simp only [sweep, show p.slots[(cursor + 1) % p.slots.size]? = none from ht]
    | some t =>
      have hsweep : sweep p.slots cursor (n + 1) =
          if t.busy then sweep p.slots ((cursor + 1) % p.capacity) n
          else p.claim? ((cursor + 1) % p.capacity) := by
        simp only [sweep, show p.slots[(cursor + 1) % p.slots.size]? = some t from ht, claim?,
          Option.map_some, capacity]
      rw [hsweep]
      cases hbusy : t.busy with
      | true =>
        rw [List.find?_cons_of_neg (by simp [isIdle, ht, hbusy])]
        exact ih _
      | false =>
        rw [List.find?_cons_of_pos (isIdle_iff.2 ⟨t, ht, hbusy⟩)]
        rfl

/-- The next idle slot is the first one in the order of the search. -/
theorem allocate_eq (p : TransferPool) : p.allocate = (p.round.find? p.isIdle).bind p.claim? := by
  rw [allocate, sweep_eq, round_eq_map]

theorem allocate_eq_some_iff : p.allocate = some (t, q) ↔
    ∃ i old, p.round.find? p.isIdle = some i ∧ p.slots[i]? = some old ∧ t = old.claimed ∧
      q = ⟨p.slots.setIfInBounds i t, i⟩ := by
  rw [allocate_eq, Option.bind_eq_some_iff]
  refine exists_congr fun i => ?_
  rw [claim?, Option.map_eq_some_iff]
  constructor
  · rintro ⟨hi, old, hold, heq⟩
    obtain ⟨rfl, rfl⟩ := Prod.mk.inj heq
    exact ⟨old, hi, hold, rfl, rfl⟩
  · rintro ⟨old, hi, hold, rfl, rfl⟩
    exact ⟨hi, old, hold, rfl⟩

/-- There is no slot to give away just if none is idle. -/
theorem allocate_eq_none : p.allocate = none ↔ ∀ i, p.isIdle i = false := by
  rw [allocate_eq]
  constructor
  · intro h i
    cases hi : p.isIdle i with
    | false => rfl
    | true =>
      obtain ⟨t, ht, -⟩ := isIdle_iff.1 hi
      have hmem : i ∈ p.round := mem_round.2 (Array.getElem?_eq_some_iff.1 ht).1
      cases hfirst : p.round.find? p.isIdle with
      | none => exact absurd hi (List.find?_eq_none.1 hfirst i hmem)
      | some j =>
        obtain ⟨u, hu, -⟩ := isIdle_iff.1 (List.find?_some hfirst)
        rw [hfirst, Option.bind_some, claim?, hu] at h
        exact nomatch h
  · intro h
    rw [List.find?_eq_none.2 fun i _ => by rw [h i]; exact Bool.false_ne_true]
    rfl

/-- A claimed slot was idle and is blank but for its name; every other slot stays as it was. -/
theorem allocate_eq_some (hp : p.Named) (h : p.allocate = some (t, q)) :
    ∃ old, p.get? t.id = some old ∧ old.busy = false ∧ t = old.claimed ∧
      ∀ u, q.set t.id u = { p.set t.id u with cursor := q.cursor } := by
  obtain ⟨i, old, hfirst, hold, rfl, rfl⟩ := allocate_eq_some_iff.1 h
  obtain ⟨old', hold', hidle⟩ := isIdle_iff.1 (List.find?_some hfirst)
  obtain rfl := Option.some.inj (hold.symm.trans hold')
  have hi : old.id.index.toNat = i := hp i old hold
  refine ⟨old, ?_, hidle, rfl, fun u => ?_⟩
  · show p.slots[old.id.index.toNat]? = some old
    rw [hi, hold]
  · unfold TransferPool.set
    show TransferPool.mk ((p.slots.setIfInBounds i _).setIfInBounds old.id.index.toNat u) i = _
    rw [hi, Array.setIfInBounds_setIfInBounds]
    show _ = TransferPool.mk (p.slots.setIfInBounds old.id.index.toNat u) i
    rw [hi]

theorem exists_allocate_of_idle {id : TransferId} (ht : p.get? id = some t)
    (hidle : t.busy = false) : ∃ u q, p.allocate = some (u, q) := by
  cases h : p.allocate with
  | some r => exact ⟨r.1, r.2, rfl⟩
  | none =>
    have hbusy := allocate_eq_none.1 h id.index.toNat
    rw [isIdle_iff.2 ⟨t, ht, hidle⟩] at hbusy
    exact nomatch hbusy

theorem allocate_eq_none_iff : p.allocate = none ↔ ∀ t ∈ p.slots.toList, t.busy = true := by
  rw [allocate_eq_none]
  constructor
  · intro h t ht
    obtain ⟨i, hi⟩ := Array.mem_iff_getElem?.1 (Array.mem_toList_iff.1 ht)
    cases hbusy : t.busy with
    | true => rfl
    | false => exact nomatch (h i).symm.trans (isIdle_iff.2 ⟨t, hi, hbusy⟩)
  · intro h i
    rw [← Bool.not_eq_true, isIdle_iff]
    rintro ⟨t, ht, hidle⟩
    exact nomatch hidle.symm.trans (h t (Array.mem_toList_iff.2 (Array.mem_of_getElem? ht)))

/-! ## Going round -/

/-- Whether the slot noted as the last one handed out is one of the pool, if it has any. -/
def OnTurn (p : TransferPool) : Prop := p.cursor % p.capacity = p.cursor

theorem onTurn_ofCapacity (capacity : Nat) : (ofCapacity capacity).OnTurn := Nat.zero_mod _

theorem OnTurn.congr (hp : p.OnTurn) (hcursor : q.cursor = p.cursor)
    (hcapacity : q.capacity = p.capacity) : q.OnTurn := by
  unfold OnTurn
  rw [hcursor, hcapacity]
  exact hp

theorem OnTurn.set (hp : p.OnTurn) (id : TransferId) (t : Transfer) : (p.set id t).OnTurn :=
  hp.congr rfl (capacity_set p id t)

theorem onTurn_allocate (h : p.allocate = some (t, q)) : q.OnTurn := by
  obtain ⟨i, old, -, hold, -, rfl⟩ := allocate_eq_some_iff.1 h
  refine Nat.mod_eq_of_lt ?_
  show i < (p.slots.setIfInBounds i t).size
  rw [Array.size_setIfInBounds]
  exact (Array.getElem?_eq_some_iff.1 hold).1

/-- A search through the next `n` slots that notes in the pool how far it has come, whether it finds
an idle slot or not. -/
def probe (p : TransferPool) : Nat → Option Transfer × TransferPool
  | 0 => (none, p)
  | n + 1 =>
    let next := (p.cursor + 1) % p.capacity
    match p.slots[next]? with
    | none => (none, p)
    | some t =>
      if t.busy then probe { p with cursor := next } n
      else (some t.claimed, ⟨p.slots.setIfInBounds next t.claimed, next⟩)

theorem probe_of_sweep_eq_some {slots : Array Transfer} {cursor n : Nat}
    (h : sweep slots cursor n = some (t, q)) : probe ⟨slots, cursor⟩ n = (some t, q) := by
  induction n generalizing cursor with
  | zero => exact nomatch h
  | succ n ih =>
    cases hu : slots[(cursor + 1) % slots.size]? with
    | none =>
      simp only [sweep, hu] at h
      exact nomatch h
    | some u =>
      simp only [sweep, hu] at h
      simp only [probe, capacity, hu]
      by_cases hbusy : u.busy = true
      · rw [if_pos hbusy] at h ⊢
        exact ih h
      · rw [if_neg hbusy] at h ⊢
        obtain ⟨rfl, rfl⟩ := Prod.mk.inj (Option.some.inj h)
        rfl

theorem probe_of_sweep_eq_none {slots : Array Transfer} (hpos : 0 < slots.size) {cursor n : Nat}
    (hturn : cursor % slots.size = cursor) (h : sweep slots cursor n = none) :
    probe ⟨slots, cursor⟩ n = (none, ⟨slots, (cursor + n) % slots.size⟩) := by
  induction n generalizing cursor with
  | zero => exact congrArg (fun c => (none, TransferPool.mk slots c)) hturn.symm
  | succ n ih =>
    cases hu : slots[(cursor + 1) % slots.size]? with
    | none => exact absurd (Nat.mod_lt _ hpos) (Nat.not_lt.2 (Array.getElem?_eq_none_iff.1 hu))
    | some u =>
      simp only [sweep, hu] at h
      simp only [probe, capacity, hu]
      by_cases hbusy : u.busy = true
      · rw [if_pos hbusy] at h ⊢
        rw [ih (Nat.mod_mod ..) h, Nat.mod_add_mod, Nat.add_assoc, Nat.add_comm 1 n]
      · rw [if_neg hbusy] at h
        cases h

/-- A search that notes how far it has come ends where it began if it has gone round in vain. So it
does what `allocate` does, which leaves a pool without an idle slot as it is. -/
theorem probe_eq (hp : p.OnTurn) :
    p.probe p.capacity = p.allocate.elim (none, p) fun r => (some r.1, r.2) := by
  cases h : p.allocate with
  | some r => exact probe_of_sweep_eq_some h
  | none =>
    rcases Nat.eq_zero_or_pos p.capacity with hzero | hpos
    · rw [hzero]
      rfl
    · refine (probe_of_sweep_eq_none hpos hp h).trans ?_
      show (none, TransferPool.mk p.slots ((p.cursor + p.capacity) % p.capacity)) = (none, p)
      rw [Nat.add_mod_right, show p.cursor % p.capacity = p.cursor from hp]

end VirtualUsb.TransferPool
