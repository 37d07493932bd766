import VirtualUsb.Proofs.Bus.Run
import Mathlib.Tactic.Common

/-!
# The counters of a bus

A bus counts the locations that it has issued and the sessions of its enumerations. Only an issue
moves the one counter, and only an enumeration, on its own or on the way to a device, moves the
other (`Bus.counters_call`).
-/

namespace VirtualUsb

namespace Bus

variable {σ : Type} (host : Host σ) (b : Bus σ) (s : σ)

/-- The last location issued and the next session. -/
def counters (b : Bus σ) : UInt8 × UInt64 := (b.lastLocation, b.nextSession)

/-- How many records an enumeration makes up. -/
def recordCount (b : Bus σ) : Nat := min b.attached.length maxRecords

def countersAfter (b : Bus σ) : Operation σ → UInt8 × UInt64
  | .newLocation => (b.lastLocation + 1, b.nextSession)
  | .enumerate | .openByIds .. => (b.lastLocation, b.nextSession + UInt64.ofNat b.recordCount)
  | _ => b.counters

@[simp] theorem counters_reap (key : DeviceKey) :
    (b.reap host key s).1.counters = b.counters := by
  unfold reap
  repeat' split
  all_goals rfl

@[simp] theorem counters_closeAt (location : Location) :
    (b.closeAt host location s).1.counters = b.counters := by
  unfold closeAt closeDevice
  split
  · rfl
  · rw [counters_reap]
    split <;> rfl

@[simp] theorem counters_removeAt (location : Location) :
    (b.removeAt host location s).1.counters = b.counters := by
  unfold removeAt
  split
  · rfl
  · exact counters_reap ..

@[simp] theorem counters_disconnectAt (location : Location) (remove : Bool) :
    (b.disconnectAt host location remove s).1.counters = b.counters := by
  unfold disconnectAt
  cases remove <;> simp

@[simp] theorem counters_place (key : DeviceKey) (location : Location) :
    (b.place host key location s).1.counters = b.counters := by
  unfold place
  dsimp only
  split
  · exact counters_disconnectAt ..
  · rfl

theorem counters_foldl {f : Bus σ × σ → Attachment → Bus σ × σ}
    (hf : ∀ p a, (f p a).1.counters = p.1.counters) (l : List Attachment)
    (p : Bus σ × σ) : (l.foldl f p).1.counters = p.1.counters := by
  induction l generalizing p with
  | nil => rfl
  | cons a l ih => exact (ih (f p a)).trans (hf p a)

theorem counters_clear : (b.clear host s).1.counters = b.counters :=
  (counters_foldl (fun p a => counters_removeAt host p.1 p.2 a.location) b.attached _).trans
    (counters_foldl (fun p a => counters_closeAt host p.1 p.2 a.location) b.opened (b, s))

@[simp] theorem counters_describeDevice (key : DeviceKey) :
    (b.describeDevice host key s).2.1.counters = b.counters := by
  unfold describeDevice
  split <;> rfl

theorem counters_enumerateFrom (n : Nat) (l : List Attachment) :
    (enumerateFrom host n l b s).2.1.counters =
      (b.lastLocation, b.nextSession + UInt64.ofNat l.length) := by
  induction l generalizing n b s with
  | nil => exact congrArg (b.lastLocation, ·) (UInt64.add_zero _).symm
  | cons a l ih =>
    have hdescribe := counters_describeDevice host { b with nextSession := b.nextSession + 1 } s a.key
    obtain ⟨hlocation, hsession⟩ := Prod.mk.inj hdescribe
    rw [enumerateFrom]
    refine (ih _ _ _).trans ?_
    rw [hlocation, hsession, List.length_cons, UInt64.ofNat_add, UInt64.add_comm (UInt64.ofNat _),
      ← UInt64.add_assoc]
    rfl

theorem counters_enumerate : (b.enumerate host s).2.1.counters =
    (b.lastLocation, b.nextSession + UInt64.ofNat b.recordCount) := by
  refine (counters_enumerateFrom host b s 1 _).trans ?_
  rw [List.length_take, Nat.min_comm, recordCount]

@[simp] theorem counters_openRecord (r : DeviceRecord) :
    (b.openRecord host r s).2.1.counters = b.counters := by
  unfold openRecord noteOpen
  repeat' split
  all_goals rfl

theorem counters_openByIds (vendorId productId : UInt16) :
    (b.openByIds host vendorId productId s).2.1.counters =
      (b.lastLocation, b.nextSession + UInt64.ofNat b.recordCount) := by
  unfold openByIds
  dsimp only
  split
  · exact counters_enumerate ..
  · rw [counters_openRecord, counters_enumerate]

theorem counters_readAt (location : Location) :
    (b.readAt host location s).2.1.counters = b.counters := by
  unfold readAt
  split <;> rfl

theorem counters_dispatch (h : Handle) (now : UInt64) (iso : IsoRequest)
    (serve : Device σ → Service → σ → Device σ × Service × σ) :
    (b.dispatch h now iso serve s).2.1.counters = b.counters := by
  unfold dispatch
  repeat' split
  all_goals rfl

theorem counters_complete (c : Completion) :
    (b.complete host c s).1.counters = b.counters := by
  unfold complete
  split
  · rfl
  · split
    · dsimp only
      split
      · exact counters_disconnectAt ..
      · rfl
    · rfl

theorem counters_call (op : Operation σ) :
    (b.call host s op).2.1.counters = b.countersAfter op := by
  cases op with
  | attach d => exact counters_place host { b with roster := b.roster.enroll d } s _ _
  | reattach h =>
    show (b.reattach host h s).2.1.counters = _
    unfold reattach
    split
    · rfl
    · exact counters_place ..
  | letGo h => exact counters_reap ..
  | enumerate => exact counters_enumerate ..
  | openRecord record => exact counters_openRecord ..
  | openByIds vendorId productId => exact counters_openByIds ..
  | disconnect h remove => exact counters_disconnectAt ..
  | claim h interface =>
    show (b.claim host h interface s).2.1.counters = _
    unfold claim
    split <;> rfl
  | release h interface =>
    show (b.release host h interface s).2.1.counters = _
    unfold release
    split <;> rfl
  | setConfiguration h value =>
    show (b.setConfiguration host h value s).2.1.counters = _
    unfold setConfiguration
    split <;> rfl
  | configDescriptor location index =>
    have h := counters_readAt host b s location
    show (b.configDescriptor host location index s).2.1.counters = _
    unfold configDescriptor
    generalize b.readAt host location s = r at h
    obtain ⟨_ | d, b', s'⟩ := r
    · exact h
    · dsimp only
      split <;> exact h
  | maxPacketSize location endpoint =>
    have h := counters_readAt host b s location
    show (b.maxPacketSize host location endpoint s).2.1.counters = _
    unfold maxPacketSize
    generalize b.readAt host location s = r at h
    obtain ⟨_ | d, b', s'⟩ := r
    · exact h
    · dsimp only
      split <;> exact h
  | submitControl | submitInterrupt => exact counters_dispatch ..
  | submitIsochronous h request now =>
    show (b.submitIsochronous h request now s).2.1.counters = _
    unfold submitIsochronous
    split
    · rfl
    · exact counters_dispatch ..
  | complete c => exact counters_complete ..
  | fail id e =>
    show (b.fail id e).counters = _
    unfold fail
    repeat' split
    all_goals rfl
  | clear => exact counters_clear ..
  | newLocation | checkConnected | getConfiguration | setAlternate | pump | store | elapse => rfl

theorem lastLocation_call {op : Operation σ} (hop : op ≠ .newLocation) :
    (b.call host s op).2.1.lastLocation = b.lastLocation := by
  refine (congrArg Prod.fst (counters_call host b s op)).trans ?_
  cases op with
  | newLocation => exact absurd rfl hop
  | _ => rfl

end Bus

end VirtualUsb
