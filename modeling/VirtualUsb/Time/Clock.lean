/-!
# Clocks

Time is a count of microseconds in a 64-bit word. Sums saturate (`Time.after`), so time never runs
backwards by overflow.
-/

namespace VirtualUsb

namespace Time

def latest : UInt64 := UInt64.ofNat (UInt64.size - 1)

/-- The time `delay` after `t`, or the largest time if there is none. -/
def after (t : UInt64) (delay : Nat) : UInt64 :=
  if t.toNat + delay < UInt64.size then UInt64.ofNat (t.toNat + delay) else latest

theorem toNat_after (t : UInt64) (delay : Nat) :
    (after t delay).toNat = min (t.toNat + delay) (UInt64.size - 1) := by
  unfold after latest UInt64.size
  split <;> simp only [UInt64.toNat_ofNat'] <;> omega

theorem le_after (t : UInt64) (delay : Nat) : t ≤ after t delay := by
  have := t.toNat_lt
  rw [UInt64.le_iff_toNat_le, toNat_after, UInt64.size]
  omega

/-- Whole microseconds in `seconds` and `nanoseconds`. -/
def micros (seconds nanoseconds : Nat) : Nat := (seconds * 1000000000 + nanoseconds) / 1000

end Time

/-- A clock that moves only when told to. -/
structure ManualClock where
  now : UInt64 := 0
  deriving DecidableEq, Repr, Inhabited

namespace ManualClock

/-- The clock set to a time, which may lie in its past. -/
def set (_ : ManualClock) (t : UInt64) : ManualClock := ⟨t⟩

/-- The clock moved forward by some microseconds. -/
def advance (c : ManualClock) (delay : Nat) : ManualClock := ⟨Time.after c.now delay⟩

end ManualClock

end VirtualUsb
