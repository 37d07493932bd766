import VirtualUsb.Transfer.Slot

/-!
# The transfer pool

The pool has a fixed number of slots. `TransferPool.allocate` looks for an idle slot after the one
handed out last and goes round once; a pool without one stays as it is.
-/

namespace VirtualUsb

/-- The transfer slots of a bus, and the index of the slot handed out last. -/
structure TransferPool where
  slots : Array Transfer
  cursor : Nat := 0
  deriving DecidableEq, Repr

namespace TransferPool

/-- A pool of idle slots, each named by its index. -/
def ofCapacity (capacity : Nat) : TransferPool where
  slots := Array.ofFn fun i : Fin capacity => { id := ⟨UInt32.ofNat i⟩ }

instance : Inhabited TransferPool := ⟨ofCapacity 0⟩

def capacity (p : TransferPool) : Nat := p.slots.size

def get? (p : TransferPool) (id : TransferId) : Option Transfer := p.slots[id.index.toNat]?

def set (p : TransferPool) (id : TransferId) (t : Transfer) : TransferPool :=
  { p with slots := p.slots.setIfInBounds id.index.toNat t }

def busyCount (p : TransferPool) : Nat := p.slots.countP (·.busy)

/-- Claims the first idle one of the next `n` slots after `cursor`. -/
def sweep (slots : Array Transfer) (cursor : Nat) : Nat → Option (Transfer × TransferPool)
  | 0 => none
  | n + 1 =>
    let next := (cursor + 1) % slots.size
    match slots[next]? with
    | none => none
    | some t =>
      if t.busy then sweep slots next n
      else some (t.claimed, ⟨slots.setIfInBounds next t.claimed, next⟩)

/-- Claims the next idle slot: the claimed slot, and the pool that holds it. -/
def allocate (p : TransferPool) : Option (Transfer × TransferPool) :=
  sweep p.slots p.cursor p.capacity

@[simp] theorem capacity_ofCapacity (n : Nat) : (ofCapacity n).capacity = n := by
  simp [ofCapacity, capacity]

@[simp] theorem capacity_set (p : TransferPool) (id : TransferId) (t : Transfer) :
    (p.set id t).capacity = p.capacity := by simp [set, capacity]

theorem get?_set (p : TransferPool) (i j : TransferId) (t : Transfer) :
    (p.set i t).get? j =
      if i = j ∧ i.index.toNat < p.capacity then some t else p.get? j := by
  obtain ⟨i⟩ := i
  obtain ⟨j⟩ := j
  simp only [get?, set, capacity, Array.getElem?_setIfInBounds, TransferId.mk.injEq]
  by_cases h : i = j
  · subst h
    by_cases hi : i.toNat < p.slots.size <;> simp [hi]
  · have : i.toNat ≠ j.toNat := fun e => h (UInt32.toNat_inj.1 e)
    simp [h, this]

theorem isSome_get? (p : TransferPool) (id : TransferId) :
    (p.get? id).isSome = decide (id.index.toNat < p.capacity) := by
  by_cases h : id.index.toNat < p.slots.size <;> simp [get?, capacity, h]

end TransferPool

end VirtualUsb
