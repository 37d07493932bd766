import Mathlib.Logic.Relation
import VirtualUsb.Proofs.Bus.Effect
import VirtualUsb.Proofs.Device.Bracket

/-!
# What calls do to devices

A bus deals with its devices by their methods alone, and most of them it calls only when it is asked
to (`Operation.Makes`). `Roster.Move` lists what can become of the roster and the world in doing so:
a method of one device is called, a device that is no longer needed is discarded, or a new one is
enrolled. Every call of a bus is a row of such moves (`Bus.moves_call`), so what each move keeps
holds of every scene reached (`Scene.Reached.moves`).
-/

namespace VirtualUsb

/-- Whether a bus calls the method: it changes the state of no device by hand, and selects no
interface. -/
def DeviceCall.OfBus : DeviceCall → Prop
  | .withState _ | .setInterface _ => False
  | _ => True

/-- Whether a call of a bus may call a method of a device. Some methods any call may use; what
changes a device in other ways is done for the one call that asks for it. -/
def Operation.Makes {σ : Type} (op : Operation σ) : DeviceCall → Prop
  | .withState _ | .setInterface _ => False
  | .openForUse => (∃ record, op = .openRecord record) ∨
    ∃ vendorId productId, op = .openByIds vendorId productId
  | .claim interface => ∃ h, op = .claim h interface
  | .release interface => ∃ h, op = .release h interface
  | .setConfiguration value => ∃ h, op = .setConfiguration h value
  | .controlTransfer setup buffer _ => ∃ h now, op = .submitControl h setup buffer now
  | _ => True

theorem Operation.Makes.ofBus {σ : Type} {op : Operation σ} {call : DeviceCall}
    (h : op.Makes call) : call.OfBus := by
  cases call with
  | withState | setInterface => exact h
  | _ => trivial

namespace Device

variable {σ : Type} (host : Host σ) (d : Device σ) (s : σ)

theorem identity_perform {call : DeviceCall} (h : call.OfBus) :
    (d.perform host s call).1.identity = d.identity := by
  cases call with
  | withState | setInterface => exact h.elim
  | openForUse => exact d.identity_openForUse host s
  | close => exact d.identity_close host s
  | readDescriptors => exact congrArg Bearing.identity (d.bearing_readDescriptors host s)
  | setConfiguration value =>
    exact congrArg Bearing.identity (d.bearing_setConfiguration host s value)
  | claim interface => exact congrArg Bearing.identity (d.bearing_claim host s interface)
  | release interface => exact congrArg Bearing.identity (d.bearing_release host s interface)
  | controlTransfer setup buffer v => exact d.identity_controlTransfer s setup buffer v
  | interruptTransfer endpoint buffer v => exact d.identity_interruptTransfer s endpoint buffer v
  | isochronousTransfer v => exact d.identity_isochronousTransfer s v
  | getConfiguration | setAlternate | isConnected => rfl

end Device

namespace Roster

variable {σ : Type} {host : Host σ} {op : Operation σ}

/-- One thing that becomes of the devices in their world in the course of a call. -/
inductive Move (host : Host σ) (op : Operation σ) : Roster σ × σ → Roster σ × σ → Prop
  | perform {r : Roster σ} {s : σ} {key : DeviceKey} {d : Device σ} (call : DeviceCall)
      (hcall : op.Makes call) (hd : r.get? key = some d) :
      Move host op (r, s) (r.set key (d.perform host s call).1, (d.perform host s call).2)
  | discard {r : Roster σ} {s : σ} {key : DeviceKey} {d : Device σ} (hd : r.get? key = some d) :
      Move host op (r, s) (r.retire key, d.discard host s)
  | enroll {r : Roster σ} {s : σ} {d : Device σ} (hop : op = .attach d) :
      Move host op (r, s) (r.enroll d, s)

abbrev Moves (host : Host σ) (op : Operation σ) : Roster σ × σ → Roster σ × σ → Prop :=
  Relation.ReflTransGen (Move host op)

/-- What every move keeps, a row of them keeps. -/
theorem Moves.keep {P : Roster σ × σ → Prop} (hP : ∀ x y, Move host op x y → P x → P y)
    {x y : Roster σ × σ} (h : Moves host op x y) (hx : P x) : P y := by
  induction h with
  | refl => exact hx
  | tail _ hm ih => exact hP _ _ hm ih

variable {r : Roster σ} {s : σ} {key : DeviceKey} {d : Device σ}

theorem set_set (r : Roster σ) (key : DeviceKey) (d d' : Device σ) :
    (r.set key d).set key d' = r.set key d' :=
  congrArg Roster.mk (Array.setIfInBounds_setIfInBounds ..)

theorem set_eq_self (hd : r.get? key = some d) : r.set key d = r := by
  have he : r.entries[key.index]? = some (some d) := Option.join_eq_some_iff.1 hd
  refine congrArg Roster.mk (Array.ext_getElem? fun i => ?_)
  rw [Array.getElem?_setIfInBounds]
  split
  · rename_i h
    rw [if_pos (Array.getElem?_eq_some_iff.1 he).1, ← h, he]
  · rfl

theorem get?_set_self (hd : r.get? key = some d) (d' : Device σ) :
    (r.set key d').get? key = some d' := (get?_set_of_get? hd d' key).trans (if_pos rfl)

theorem Move.size_le {x y : Roster σ × σ} (h : Move host op x y) :
    x.1.entries.size ≤ y.1.entries.size := by
  cases h with
  | perform => exact Nat.le_of_eq Array.size_setIfInBounds.symm
  | discard => exact Nat.le_of_eq Array.size_setIfInBounds.symm
  | enroll =>
    refine Nat.le_trans (Nat.le_succ _) (Nat.le_of_eq ?_)
    exact (Array.size_push _).symm

/-- A device on the roster after a move was there before, just as it is or until its method was
called, or it is the one that was enrolled. -/
theorem Move.origin {x y : Roster σ × σ} (h : Move host op x y) (hd : y.1.get? key = some d) :
    x.1.get? key = some d ∨
      (∃ d₀ call, x.1.get? key = some d₀ ∧ op.Makes call ∧
        d₀.perform host x.2 call = (d, y.2)) ∨
      key = x.1.nextKey ∧ op = .attach d := by
  cases h with
  | perform call hcall hd₀ =>
    rw [get?_set_of_get? hd₀] at hd
    split at hd
    · rename_i hkey
      obtain rfl := Option.some.inj hd
      exact .inr (.inl ⟨_, call, hkey ▸ hd₀, hcall, rfl⟩)
    · exact .inl hd
  | discard =>
    rw [get?_retire] at hd
    split at hd
    · exact nomatch hd
    · exact .inl hd
  | enroll hattach =>
    rw [get?_enroll] at hd
    split at hd
    · rename_i hkey
      exact .inr (.inr ⟨hkey, hattach.trans (congrArg _ (Option.some.inj hd))⟩)
    · exact .inl hd

theorem moves_ask (call : DeviceCall) (hcall : op.Makes call) (hd : r.get? key = some d)
    (hsame : (d.perform host s call).1 = d) :
    Moves host op (r, s) (r, (d.perform host s call).2) := by
  have h : Move host op (r, s) (r.set key (d.perform host s call).1, (d.perform host s call).2) :=
    .perform call hcall hd
  rw [hsame, set_eq_self hd] at h
  exact .single h

/-- A device may be asked to read its descriptors and then to do something else. -/
theorem moves_read (call : DeviceCall) (hcall : op.Makes call) (hd : r.get? key = some d) :
    let q := d.readDescriptors host s
    Moves host op (r, s)
      (r.set key (q.1.perform host q.2 call).1, (q.1.perform host q.2 call).2) := by
  intro q
  have h₁ : Move host op (r, s) (r.set key q.1, q.2) := .perform .readDescriptors trivial hd
  have h₂ : Move host op (r.set key q.1, q.2) ((r.set key q.1).set key
      (q.1.perform host q.2 call).1, (q.1.perform host q.2 call).2) :=
    .perform call hcall (get?_set_self hd q.1)
  rw [set_set] at h₂
  exact .tail (.single h₁) h₂

end Roster

namespace Bus

open Roster (Move Moves)

variable {σ : Type} (host : Host σ) (op : Operation σ)

/-- Whether the devices and the world of a bus have come to what they are by a row of moves. -/
def Moves (x y : Bus σ × σ) : Prop := Roster.Moves host op (x.1.roster, x.2) (y.1.roster, y.2)

variable {host op} {b : Bus σ} {s : σ} {x y z : Bus σ × σ}

theorem Moves.refl (x : Bus σ × σ) : Moves host op x x := Relation.ReflTransGen.refl

theorem Moves.trans (h : Moves host op x y) (h' : Moves host op y z) : Moves host op x z :=
  Relation.ReflTransGen.trans h h'

theorem moves_of_roster_eq {b b' : Bus σ} (h : b'.roster = b.roster) (s : σ) :
    Moves host op (b, s) (b', s) := by
  unfold Moves
  dsimp only
  rw [h]

variable (b s)

/-! ## Attaching and detaching -/

theorem moves_reap (key : DeviceKey) : Moves host op (b, s) (b.reap host key s) := by
  unfold reap
  split
  · exact .refl _
  · split
    · exact .refl _
    · exact .single (.discard ‹_›)

theorem moves_closeDevice (key : DeviceKey) : Moves host op (b, s) (b.closeDevice host key s) := by
  unfold closeDevice
  split
  · exact .refl _
  · exact .single (.perform .close trivial ‹_›)

theorem moves_closeAt (location : Location) :
    Moves host op (b, s) (b.closeAt host location s) := by
  unfold closeAt
  split
  · exact .refl _
  · rename_i a _
    let off : Bus σ := { b with opened := withoutLocation b.opened location }
    have h₁ : Moves host op (b, s) (off, s) := moves_of_roster_eq rfl s
    have h₂ : Moves host op (off, s) _ := moves_closeDevice off s a.key
    exact (h₁.trans h₂).trans (moves_reap _ _ a.key)

theorem moves_removeAt (location : Location) :
    Moves host op (b, s) (b.removeAt host location s) := by
  unfold removeAt
  split
  · exact .refl _
  · rename_i a _
    let off : Bus σ := { b with attached := withoutLocation b.attached location }
    have h : Moves host op (b, s) (off, s) := moves_of_roster_eq rfl s
    exact h.trans (moves_reap off s a.key)

theorem moves_disconnectAt (location : Location) (remove : Bool) :
    Moves host op (b, s) (b.disconnectAt host location remove s) := by
  unfold disconnectAt
  dsimp only
  split
  · exact (moves_closeAt b s location).trans (moves_removeAt _ _ location)
  · exact moves_closeAt b s location

theorem moves_place (key : DeviceKey) (location : Location) :
    Moves host op (b, s) (b.place host key location s) := by
  unfold place
  dsimp only
  split
  · exact (moves_disconnectAt b s location true).trans (moves_of_roster_eq rfl _)
  · exact moves_of_roster_eq rfl s

theorem moves_attach {d : Device σ} (hop : op = .attach d) :
    Moves host op (b, s) (b.attach host d s).2 := by
  have h : Moves host op (b, s) ({ b with roster := b.roster.enroll d }, s) := .single (.enroll hop)
  exact h.trans (moves_place _ s _ _)

theorem moves_reattach (h : Handle) : Moves host op (b, s) (b.reattach host h s).2 := by
  unfold reattach
  split
  · exact .refl _
  · exact moves_place b s _ _

theorem moves_letGo (h : Handle) : Moves host op (b, s) (b.letGo host h s) := by
  have hoff : Moves host op (b, s) ({ b with held := b.held.erase h.key }, s) :=
    moves_of_roster_eq rfl s
  exact hoff.trans (moves_reap _ s h.key)

/-- Going through attachments is a row of moves if each step of it is. -/
theorem moves_foldl {f : Bus σ × σ → Attachment → Bus σ × σ}
    (hf : ∀ x a, Moves host op x (f x a)) (l : List Attachment) (x : Bus σ × σ) :
    Moves host op x (l.foldl f x) := by
  induction l generalizing x with
  | nil => exact .refl x
  | cons a l ih => exact (hf x a).trans (ih (f x a))

theorem moves_clear : Moves host op (b, s) (b.clear host s) :=
  (moves_foldl (fun x a => moves_closeAt x.1 x.2 a.location) b.opened (b, s)).trans
    (moves_foldl (fun x a => moves_removeAt x.1 x.2 a.location) b.attached _)

/-! ## Enumerating and opening -/

theorem moves_describeDevice (key : DeviceKey) :
    Moves host op (b, s) (b.describeDevice host key s).2 := by
  unfold describeDevice
  split
  · exact .refl _
  · exact .single (.perform .readDescriptors trivial ‹_›)

theorem moves_enumerateFrom (n : Nat) (l : List Attachment) :
    Moves host op (b, s) (enumerateFrom host n l b s).2 := by
  induction l generalizing n b s with
  | nil => exact .refl _
  | cons a l ih =>
    rw [enumerateFrom]
    have hnext : Moves host op (b, s) ({ b with nextSession := b.nextSession + 1 }, s) :=
      moves_of_roster_eq rfl s
    exact (hnext.trans (moves_describeDevice _ s a.key)).trans (ih _ _ _)

theorem moves_enumerate : Moves host op (b, s) (b.enumerate host s).2 :=
  moves_enumerateFrom b s 1 _

theorem roster_noteOpen (a : Attachment) : (b.noteOpen a).roster = b.roster := by
  unfold noteOpen
  split <;> rfl

theorem moves_openRecord (r : DeviceRecord) (hop : op.Makes .openForUse) :
    Moves host op (b, s) (b.openRecord host r s).2 := by
  unfold openRecord
  split
  · exact .refl _
  · split
    · exact .refl _
    · rename_i a _ _ d hd
      have h : Move host op (b.roster, s)
          (b.roster.set a.key (d.openForUse host s).2.1, (d.openForUse host s).2.2) :=
        .perform .openForUse hop hd
      generalize d.openForUse host s = o at h
      obtain ⟨_ | _, d', s'⟩ := o
      · exact .single h
      · have hopened : Moves host op (b, s) (b.withDevice a.key d', s') := .single h
        exact hopened.trans (moves_of_roster_eq (roster_noteOpen (b.withDevice a.key d') a) s')

theorem moves_openByIds (vendorId productId : UInt16) (hop : op.Makes .openForUse) :
    Moves host op (b, s) (b.openByIds host vendorId productId s).2 := by
  unfold openByIds
  dsimp only
  split
  · exact moves_enumerate b s
  · exact (moves_enumerate b s).trans (moves_openRecord _ _ _ hop)

/-! ## Requests -/

theorem moves_checkConnected (h : Handle) :
    Moves host op (b, s) (b, (b.checkConnected host h s).2) := by
  unfold checkConnected
  split
  · exact .refl _
  · exact Roster.moves_ask .isConnected trivial (roster_of_knownDevice ‹_›) rfl

theorem moves_claim (h : Handle) (interface : UInt8) :
    Moves host (.claim h interface) (b, s) (b.claim host h interface s).2 := by
  unfold claim
  split
  · exact .refl _
  · exact Roster.moves_read (.claim interface) ⟨h, rfl⟩ (roster_of_openedDevice ‹_›)

theorem moves_release (h : Handle) (interface : UInt8) :
    Moves host (.release h interface) (b, s) (b.release host h interface s).2 := by
  unfold release
  split
  · exact .refl _
  · exact .single (.perform (.release interface) ⟨h, rfl⟩ (roster_of_openedDevice ‹_›))

theorem moves_getConfiguration (h : Handle) :
    Moves host op (b, s) (b, (b.getConfiguration host h s).2) := by
  unfold getConfiguration
  split
  · exact .refl _
  · rename_i key d hd
    have hmove : Roster.Moves host op (b.roster, s) (b.roster, (d.getConfiguration host 1 s).2) :=
      Roster.moves_ask (.getConfiguration 1) trivial (roster_of_openedDevice hd) rfl
    generalize d.getConfiguration host 1 s = answer at hmove
    obtain ⟨_ | _, s'⟩ := answer <;> exact hmove

theorem moves_setConfiguration (h : Handle) (value : UInt8) :
    Moves host (.setConfiguration h value) (b, s) (b.setConfiguration host h value s).2 := by
  unfold setConfiguration
  split
  · exact .refl _
  · exact .single (.perform (.setConfiguration value) ⟨h, rfl⟩ (roster_of_openedDevice ‹_›))

theorem moves_setAlternate (h : Handle) (interface setting : UInt8) :
    Moves host op (b, s) (b, (b.setAlternate host h interface setting s).2) := by
  unfold setAlternate
  split
  · exact .refl _
  · exact Roster.moves_ask (.setAlternate interface setting) trivial
      (roster_of_openedDevice ‹_›) rfl

theorem moves_readAt (location : Location) :
    Moves host op (b, s) (b.readAt host location s).2 := by
  unfold readAt
  split
  · exact .refl _
  · exact .single (.perform .readDescriptors trivial (roster_of_knownDevice ‹_›))

theorem moves_configDescriptor (location : Location) (index : UInt8) :
    Moves host op (b, s) (b.configDescriptor host location index s).2 := by
  have h : Moves host op (b, s) (b.readAt host location s).2 := moves_readAt b s location
  unfold configDescriptor
  generalize b.readAt host location s = r at h
  obtain ⟨_ | d, b', s'⟩ := r
  · exact h
  · dsimp only
    split <;> exact h

theorem moves_maxPacketSize (location : Location) (endpoint : UInt8) :
    Moves host op (b, s) (b.maxPacketSize host location endpoint s).2 := by
  have h : Moves host op (b, s) (b.readAt host location s).2 := moves_readAt b s location
  unfold maxPacketSize
  generalize b.readAt host location s = r at h
  obtain ⟨_ | d, b', s'⟩ := r
  · exact h
  · dsimp only
    split <;> exact h

/-! ## Transfers -/

theorem moves_dispatch (h : Handle) (now : UInt64) (iso : IsoRequest)
    {serve : Device σ → Service → σ → Device σ × Service × σ} (call : Service → DeviceCall)
    (hcall : ∀ v, op.Makes (call v))
    (hserve : ∀ d v s, d.perform host s (call v) = ((serve d v s).1, (serve d v s).2.2)) :
    Moves host op (b, s) (b.dispatch h now iso serve s).2 := by
  unfold dispatch
  split
  · exact .refl _
  · rename_i key d hd
    split
    · exact .refl _
    · rename_i t pool _
      let v := b.serviceOf (prepare t h iso) now
      have hmove : Move host op (b.roster, s)
          (b.roster.set key (d.perform host s (call v)).1, (d.perform host s (call v)).2) :=
        .perform (call v) (hcall v) (roster_of_openedDevice hd)
      rw [hserve] at hmove
      exact .single hmove

theorem moves_submitIsochronous (h : Handle) (request : IsoRequest) (now : UInt64) :
    Moves host op (b, s) (b.submitIsochronous h request now s).2 := by
  unfold submitIsochronous
  split
  · exact .refl _
  · exact moves_dispatch b s h now request .isochronousTransfer (fun _ => trivial)
      fun _ _ _ => rfl

theorem moves_complete (c : Completion) : Moves host op (b, s) (b.complete host c s) := by
  unfold complete
  split
  · exact .refl _
  · rename_i t _
    split
    · have h : Moves host op (b, s) (b.delivered c t, s) := moves_of_roster_eq rfl s
      dsimp only
      split
      · exact h.trans (moves_disconnectAt (b.delivered c t) s _ true)
      · exact h
    · exact .refl _

theorem roster_fail (id : TransferId) (e : HostError) : (b.fail id e).roster = b.roster := by
  unfold fail
  repeat' split
  all_goals rfl

/-! ## Calls -/

/-- A call is a row of moves, unless it is the world alone that moves on. -/
theorem moves_call (hop : ∀ world, op ≠ .elapse world) :
    Moves host op (b, s) (b.call host s op).2 := by
  cases op with
  | attach d => exact moves_attach b s rfl
  | reattach h => exact moves_reattach b s h
  | letGo h => exact moves_letGo b s h
  | enumerate => exact moves_enumerate b s
  | openRecord record => exact moves_openRecord b s record (.inl ⟨record, rfl⟩)
  | openByIds vendorId productId =>
    exact moves_openByIds b s vendorId productId (.inr ⟨vendorId, productId, rfl⟩)
  | disconnect h remove => exact moves_disconnectAt b s h.location remove
  | checkConnected h => exact moves_checkConnected b s h
  | claim h interface => exact moves_claim b s h interface
  | release h interface => exact moves_release b s h interface
  | getConfiguration h => exact moves_getConfiguration b s h
  | setConfiguration h value => exact moves_setConfiguration b s h value
  | setAlternate h interface setting => exact moves_setAlternate b s h interface setting
  | configDescriptor location index => exact moves_configDescriptor b s location index
  | maxPacketSize location endpoint => exact moves_maxPacketSize b s location endpoint
  | submitControl h setup buffer now =>
    exact moves_dispatch b s h now {} (.controlTransfer setup buffer) (fun _ => ⟨h, now, rfl⟩)
      fun _ _ _ => rfl
  | submitInterrupt h endpoint buffer now =>
    exact moves_dispatch b s h now {} (.interruptTransfer endpoint buffer) (fun _ => trivial)
      fun _ _ _ => rfl
  | submitIsochronous h request now => exact moves_submitIsochronous b s h request now
  | complete c => exact moves_complete b s c
  | fail id e => exact moves_of_roster_eq (roster_fail b id e) s
  | clear => exact moves_clear b s
  | newLocation | pump | store => exact moves_of_roster_eq rfl s
  | elapse world => exact absurd rfl (hop world)

end Bus

/-! ## Runs -/

/-- What holds of the devices and the world at first, and is kept by every move of an allowed call
and when the world moves on, holds in every scene reached. -/
theorem Scene.Reached.moves {σ : Type} {host : Host σ}
    {allowed : Scene σ → Operation σ → Prop} {first c : Scene σ} {P : Roster σ × σ → Prop}
    (h : Reached host allowed first c) (h0 : P (first.bus.roster, first.world))
    (hmove : ∀ c op, allowed c op → ∀ x y, Roster.Move host op x y → P x → P y)
    (helapse : ∀ c world, allowed c (.elapse world) → P (c.bus.roster, c.world) →
      P (c.bus.roster, world)) : P (c.bus.roster, c.world) := by
  refine h.invariant (P := fun c => P (c.bus.roster, c.world)) h0 fun c op hc hop => ?_
  by_cases hel : ∃ world, op = .elapse world
  · obtain ⟨world, rfl⟩ := hel
    exact helapse c world hop hc
  · have hrow : Bus.Moves host op (c.bus, c.world) (c.bus.call host c.world op).2 :=
      Bus.moves_call c.bus c.world fun world e => hel ⟨world, e⟩
    exact hrow.keep (hmove c op hop) hc

end VirtualUsb
