import VirtualUsb.Device

/-!
# The roster

The roster keeps the devices that anything still refers to. Lists and guests hold keys; two keys
are equal exactly if they mean the same device, and a key is never given to a second device.
-/

namespace VirtualUsb

/-- The name of a device on the roster. -/
structure DeviceKey where
  index : Nat
  deriving DecidableEq, Repr, Inhabited

/-- All devices that were ever enrolled; those no longer needed have left a gap. -/
structure Roster (σ : Type) where
  entries : Array (Option (Device σ)) := #[]

namespace Roster

variable {σ : Type}

/-- The device with a key, if it is still there. -/
def get? (r : Roster σ) (key : DeviceKey) : Option (Device σ) := r.entries[key.index]?.join

def set (r : Roster σ) (key : DeviceKey) (d : Device σ) : Roster σ :=
  ⟨r.entries.setIfInBounds key.index (some d)⟩

def nextKey (r : Roster σ) : DeviceKey := ⟨r.entries.size⟩

/-- The roster with one more device, under the next key. -/
def enroll (r : Roster σ) (d : Device σ) : Roster σ := ⟨r.entries.push (some d)⟩

def retire (r : Roster σ) (key : DeviceKey) : Roster σ :=
  ⟨r.entries.setIfInBounds key.index none⟩

theorem get?_enroll (r : Roster σ) (d : Device σ) (key : DeviceKey) :
    (r.enroll d).get? key = if key = r.nextKey then some d else r.get? key := by
  obtain ⟨i⟩ := key
  simp only [get?, enroll, nextKey, Array.getElem?_push, DeviceKey.mk.injEq]
  split <;> simp

theorem get?_set (r : Roster σ) (k key : DeviceKey) (d : Device σ) :
    (r.set k d).get? key =
      if k = key ∧ k.index < r.entries.size then some d else r.get? key := by
  obtain ⟨i⟩ := key
  obtain ⟨j⟩ := k
  simp only [get?, set, Array.getElem?_setIfInBounds, DeviceKey.mk.injEq]
  by_cases h : j = i
  · subst h
    by_cases hj : j < r.entries.size <;> simp [hj]
  · simp [h]

end Roster

end VirtualUsb
