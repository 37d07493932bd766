import VirtualUsb.Proofs.Bus.Run
import VirtualUsb.Proofs.Device.Identity

/-!
# Requests to devices

A bus is looked at from two sides. Its `Ledger` is what transfers have to do with, its `Lineup` the
lists of devices and how each of them stands. Requests to devices and enumerations change neither
(`Bus.Recast`, `Bus.recast_call`): all they do is to replace devices by others of the same bearing.
-/

namespace VirtualUsb

/-- What the transfers of a guest have to do with. -/
structure Ledger where
  pool : TransferPool
  agenda : Agenda
  memory : Memory
  latency : UInt64

/-- The two lists of a bus, with the bearings of the devices that it keeps. -/
structure Lineup where
  attached : List Attachment
  opened : List Attachment
  bearing? : DeviceKey → Option Bearing

namespace Lineup

/-- The lineup with the bearing of one device replaced. -/
def update (l : Lineup) (key : DeviceKey) (x : Option Bearing) : Lineup :=
  { l with bearing? := fun k => if key = k then x else l.bearing? k }

theorem update_eq_self {l : Lineup} {key : DeviceKey} {x : Option Bearing}
    (h : l.bearing? key = x) : l.update key x = l := by
  unfold update
  congr
  funext k
  split
  · rename_i e
    rw [← e, h]
  · rfl

end Lineup

theorem Roster.get?_set_of_get? {σ : Type} {r : Roster σ} {key : DeviceKey} {d : Device σ}
    (hd : r.get? key = some d) (d' : Device σ) (k : DeviceKey) :
    (r.set key d').get? k = if key = k then some d' else r.get? k := by
  have hlt : key.index < r.entries.size :=
    (Array.getElem?_eq_some_iff.1 (Option.join_eq_some_iff.1 hd)).1
  rw [get?_set]
  simp only [hlt, and_true]

namespace Bus

variable {σ : Type} (host : Host σ) {b b' b'' : Bus σ}

/-- The transfers of a bus, with the memory of the guest. -/
def ledger (b : Bus σ) : Ledger := ⟨b.pool, b.agenda, b.memory, b.latency⟩

def lineup (b : Bus σ) : Lineup :=
  ⟨b.attached, b.opened, fun key => (b.roster.get? key).map Device.bearing⟩

theorem isSome_bearing? (b : Bus σ) (key : DeviceKey) :
    (b.lineup.bearing? key).isSome = (b.roster.get? key).isSome := Option.isSome_map

theorem lineup_set {key : DeviceKey} {d d' : Device σ} (hd : b.roster.get? key = some d) :
    (b.withDevice key d').lineup = b.lineup.update key (some d'.bearing) := by
  unfold lineup withDevice Lineup.update
  congr
  funext k
  dsimp only
  rw [Roster.get?_set_of_get? hd]
  split <;> rfl

/-- Whether a bus differs from another in no more than counters and what its devices remember. -/
structure Recast (b b' : Bus σ) : Prop where
  ledger : b'.ledger = b.ledger
  lineup : b'.lineup = b.lineup

theorem Recast.refl (b : Bus σ) : b.Recast b := ⟨rfl, rfl⟩

theorem Recast.trans (h : b.Recast b') (h' : b'.Recast b'') : b.Recast b'' :=
  ⟨h'.ledger.trans h.ledger, h'.lineup.trans h.lineup⟩

theorem recast_withDevice {key : DeviceKey} {d d' : Device σ} (hd : b.roster.get? key = some d)
    (e : d'.bearing = d.bearing) : b.Recast (b.withDevice key d') := by
  refine ⟨rfl, ?_⟩
  rw [lineup_set hd, e]
  exact Lineup.update_eq_self (congrArg (Option.map Device.bearing) hd)

/-! ## Requests -/

theorem roster_of_knownDevice {b : Bus σ} {location : Location} {key : DeviceKey} {d : Device σ}
    (h : b.knownDevice location = some (key, d)) : b.roster.get? key = some d := by
  unfold knownDevice at h
  obtain ⟨a, -, h⟩ := Option.bind_eq_some_iff.1 h
  obtain ⟨d', hd, e⟩ := Option.map_eq_some_iff.1 h
  rw [← (Prod.mk.inj e).1, ← (Prod.mk.inj e).2]
  exact hd

theorem roster_of_openedDevice {b : Bus σ} {h : Handle} {key : DeviceKey} {d : Device σ}
    (hd : b.openedDevice h = some (key, d)) : b.roster.get? key = some d := by
  unfold openedDevice at hd
  obtain ⟨a, -, hd⟩ := Option.bind_eq_some_iff.1 hd
  obtain ⟨d', hd, e⟩ := Option.map_eq_some_iff.1 hd
  rw [← (Prod.mk.inj e).1, ← (Prod.mk.inj e).2]
  exact hd

section

variable (s : σ) {h : Handle} {key : DeviceKey} {d : Device σ}
  (hd : b.openedDevice h = some (key, d))

include hd

theorem claim_of_openedDevice (interface : UInt8) : b.claim host h interface s =
    let q := d.readDescriptors host s
    let r := q.1.claim host interface q.2
    (r.1, b.withDevice key r.2.1, r.2.2) := by
  unfold claim
  rw [hd]

theorem release_of_openedDevice (interface : UInt8) : b.release host h interface s =
    let r := d.release host interface s
    (r.1, b.withDevice key r.2.1, r.2.2) := by
  unfold release
  rw [hd]

theorem getConfiguration_of_openedDevice : b.getConfiguration host h s =
    ((d.getConfiguration host 1 s).1.head?.elim (.error .io) .ok,
      (d.getConfiguration host 1 s).2) := by
  unfold getConfiguration
  rw [hd]
  dsimp only
  rcases d.getConfiguration host 1 s with ⟨_ | _, s'⟩ <;> rfl

theorem setConfiguration_of_openedDevice (value : UInt8) : b.setConfiguration host h value s =
    let r := d.setConfiguration host value s
    (if r.1 then .ok () else .error .io, b.withDevice key r.2.1, r.2.2) := by
  unfold setConfiguration
  rw [hd]

theorem setAlternate_of_openedDevice (interface setting : UInt8) :
    b.setAlternate host h interface setting s = d.setAlternate host interface setting s := by
  unfold setAlternate
  rw [hd]

end

variable (b) (s : σ)

theorem recast_describeDevice (key : DeviceKey) : b.Recast (b.describeDevice host key s).2.1 := by
  unfold describeDevice
  split
  · exact .refl b
  · rename_i d hd
    exact recast_withDevice hd (d.bearing_readDescriptors host s)

theorem recast_enumerateFrom (n : Nat) (l : List Attachment) :
    b.Recast (enumerateFrom host n l b s).2.1 := by
  induction l generalizing n b s with
  | nil => exact .refl b
  | cons a l ih =>
    rw [enumerateFrom]
    have hnext : b.Recast { b with nextSession := b.nextSession + 1 } := ⟨rfl, rfl⟩
    exact hnext.trans ((recast_describeDevice host _ s a.key).trans (ih _ _ _))

theorem recast_enumerate : b.Recast (b.enumerate host s).2.1 := recast_enumerateFrom host b s 1 _

theorem recast_claim (h : Handle) (interface : UInt8) :
    b.Recast (b.claim host h interface s).2.1 := by
  unfold claim
  split
  · exact .refl b
  · rename_i key d hd
    refine recast_withDevice (roster_of_openedDevice hd) ?_
    rw [Device.bearing_claim, Device.bearing_readDescriptors]

theorem recast_release (h : Handle) (interface : UInt8) :
    b.Recast (b.release host h interface s).2.1 := by
  unfold release
  split
  · exact .refl b
  · rename_i key d hd
    exact recast_withDevice (roster_of_openedDevice hd) (d.bearing_release host s interface)

theorem recast_setConfiguration (h : Handle) (value : UInt8) :
    b.Recast (b.setConfiguration host h value s).2.1 := by
  unfold setConfiguration
  split
  · exact .refl b
  · rename_i key d hd
    exact recast_withDevice (roster_of_openedDevice hd) (d.bearing_setConfiguration host s value)

theorem recast_readAt (location : Location) : b.Recast (b.readAt host location s).2.1 := by
  unfold readAt
  split
  · exact .refl b
  · rename_i key d hd
    exact recast_withDevice (roster_of_knownDevice hd) (d.bearing_readDescriptors host s)

theorem recast_configDescriptor (location : Location) (index : UInt8) :
    b.Recast (b.configDescriptor host location index s).2.1 := by
  have h := recast_readAt host b s location
  unfold configDescriptor
  generalize b.readAt host location s = r at h
  obtain ⟨_ | d, b', s'⟩ := r
  · exact h
  · dsimp only
    split <;> exact h

theorem recast_maxPacketSize (location : Location) (endpoint : UInt8) :
    b.Recast (b.maxPacketSize host location endpoint s).2.1 := by
  have h := recast_readAt host b s location
  unfold maxPacketSize
  generalize b.readAt host location s = r at h
  obtain ⟨_ | d, b', s'⟩ := r
  · exact h
  · dsimp only
    split <;> exact h

end Bus

/-- Whether a call asks devices something or moves a counter, and does nothing else to the bus. -/
def Operation.IsRequest {σ : Type} : Operation σ → Prop
  | .newLocation | .enumerate | .checkConnected _ | .claim .. | .release .. => True
  | .getConfiguration _ | .setConfiguration .. | .setAlternate .. => True
  | .configDescriptor .. | .maxPacketSize .. | .elapse _ => True
  | _ => False

theorem Bus.recast_call {σ : Type} (host : Host σ) (b : Bus σ) (s : σ) {op : Operation σ}
    (h : op.IsRequest) : b.Recast (b.call host s op).2.1 := by
  cases op with
  | newLocation => exact ⟨rfl, rfl⟩
  | enumerate => exact recast_enumerate host b s
  | claim => exact recast_claim host b s _ _
  | release => exact recast_release host b s _ _
  | setConfiguration => exact recast_setConfiguration host b s _ _
  | configDescriptor => exact recast_configDescriptor host b s _ _
  | maxPacketSize => exact recast_maxPacketSize host b s _ _
  | checkConnected | getConfiguration | setAlternate | elapse => exact .refl b
  | _ => exact h.elim

end VirtualUsb
