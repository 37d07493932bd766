import VirtualUsb.Proofs.Device.Identity
import VirtualUsb.Proofs.Host.Log

/-!
# How a passthrough device deals with its host

What relates the handle and the interfaces that a passthrough device remembers to the log of its
host holds after every call if the few things that a device asks of the host keep it
(`HostLog.Kept`, `Device.follows_perform`). That the device agrees with the log (`HostLog.Agrees`)
is such a relation, so its calls of the host are bracketed from its making to its end, whatever is
called in between and whatever the host answers (`Passthrough.bracketed_of_calls`).
-/

namespace VirtualUsb

namespace HostCall

/-- Whether a call has left all handles, interfaces and references as they were. -/
def isIdle : HostCall → Bool
  | deviceList | openDevice _ (.error _) | claim _ _ (.error _) | release _ _ (.error _) => true
  | autoDetach _ | configuration _ | setConfiguration _ | setAlternate _ | controlSync _ => true
  | _ => false

theorem steady_of_isIdle {x : HostCall} (hx : x.isIdle = true) :
    x.IsSteady ∧ x.counts = false := by
  cases x with
  | openDevice _ answer => cases answer <;> first | exact ⟨⟨rfl, rfl⟩, rfl⟩ | exact nomatch hx
  | reference | unreference | closeHandle => exact nomatch hx
  | _ => exact ⟨⟨rfl, rfl⟩, rfl⟩

end HostCall

namespace HostLog

variable {log : HostLog} {h : HostHandle} {i : UInt8}

theorem held_of_isIdle {x : HostCall} (hx : x.isIdle = true) : held h (x :: log) = held h log := by
  cases x with
  | openDevice _ answer | claim _ _ answer | release _ _ answer =>
    cases answer <;> first | rfl | exact nomatch hx
  | reference | unreference | closeHandle | submit | handleEvents => exact nomatch hx
  | _ => rfl

theorem held_of_opened {x : HostCall} (hx : x.opened? = some h) : held h (x :: log) = [] :=
  if_pos (.inl hx)

theorem held_claim : held h (.claim h i (.ok ()) :: log) = i :: held h log := if_pos rfl

theorem held_release :
    held h (.release h i (.ok ()) :: log) = (held h log).filter (· ≠ i) := if_pos rfl

theorem openHandles_row {row : HostLog} (hrow : ∀ x ∈ row, ∃ i a, x = .release h i a) :
    openHandles (row ++ log) = openHandles log := by
  induction row with
  | nil => rfl
  | cons x row ih =>
    obtain ⟨⟨i, a, rfl⟩, hrest⟩ := List.forall_mem_cons.1 hrow
    exact (openHandles_of_steady (x := .release h i a) ⟨rfl, rfl⟩).trans (ih hrest)

/-- Whether a relation between the handle that a device has open, what it has claimed on it and the
log of its host is kept by all that a device asks of the host. -/
structure Kept (R : Option HostHandle → InterfaceSet → HostLog → Prop) : Prop where
  idle : ∀ {handle claimed log} {x : HostCall}, R handle claimed log → x.isIdle = true →
    (∀ h, x.handle? = some h → handle = some h) → R handle claimed (x :: log)
  opened : ∀ {claimed log}, R none claimed log → ∀ device h claimed',
    R (some h) claimed' (.openDevice device (.ok h) :: log)
  claim : ∀ {h claimed log}, R (some h) claimed log → ∀ i,
    R (some h) (claimed.insert i) (.claim h i (.ok ()) :: log)
  release : ∀ {h claimed log}, R (some h) claimed log → ∀ i,
    R (some h) (claimed.erase i) (.release h i (.ok ()) :: log)
  closed : ∀ {h claimed log}, R (some h) claimed log → ∀ row,
    (∀ x ∈ row, ∃ i a, x = .release h i a) → (∀ i ∈ claimed, ∃ a, .release h i a ∈ row) →
    ∀ claimed', R none claimed' (.closeHandle h :: (row ++ log))

/-- Whether a device that has made the calls of a log, all of them proper, has a handle open or
none, and holds no interfaces on it but some. -/
structure Agrees (id : HostDeviceId) (handle : Option HostHandle) (claimed : InterfaceSet)
    (log : HostLog) : Prop where
  lawful : Lawful id log
  handles : openHandles log = handle.toList
  held : ∀ h, handle = some h → ∀ i ∈ held h log, i ∈ claimed

namespace Agrees

variable {id : HostDeviceId} {handle : Option HostHandle} {claimed : InterfaceSet}

theorem mem_openHandles (ha : Agrees id (some h) claimed log) : h ∈ openHandles log := by
  rw [ha.handles]
  exact List.mem_singleton_self h

theorem reference (id : HostDeviceId) (claimed : InterfaceSet) :
    Agrees id none claimed [.reference id] := ⟨.attached, rfl, nofun⟩

theorem idle (ha : Agrees id handle claimed log) {x : HostCall} (hx : x.isIdle = true)
    (hn : ∀ h, x.handle? = some h → handle = some h) : Agrees id handle claimed (x :: log) := by
  obtain ⟨hsteady, hcounts⟩ := HostCall.steady_of_isIdle hx
  refine ⟨ha.lawful.call ⟨fun h hh => ?_, fun h ho => ?_, fun h hc => ?_, hcounts⟩, ?_, ?_⟩
  · obtain rfl := hn h hh
    exact ha.mem_openHandles
  · exact nomatch hsteady.1.symm.trans ho
  · exact nomatch hsteady.2.symm.trans hc
  · rw [openHandles_of_steady hsteady, ha.handles]
  · intro h hh
    rw [held_of_isIdle hx]
    exact ha.held h hh

theorem opened (ha : Agrees id none claimed log) (device : HostDeviceId) (h : HostHandle)
    (claimed' : InterfaceSet) :
    Agrees id (some h) claimed' (.openDevice device (.ok h) :: log) := by
  refine ⟨ha.lawful.call ⟨nofun, fun _ _ => ha.handles, nofun, rfl⟩, ?_, fun h' hh => ?_⟩
  · rw [openHandles_of_opened rfl, ha.handles]
    rfl
  · obtain rfl := Option.some.inj hh
    rw [held_of_opened rfl]
    exact nofun

/-- Claims and releases name the handle that is open. -/
theorem proper (ha : Agrees id (some h) claimed log) {x : HostCall} (hx : x.handle? = some h)
    (hsteady : x.IsSteady) (hcounts : x.counts = false) : Proper x log where
  named h' hh := by
    obtain rfl := Option.some.inj (hx.symm.trans hh)
    exact ha.mem_openHandles
  alone h' ho := nomatch hsteady.1.symm.trans ho
  released h' hc := nomatch hsteady.2.symm.trans hc
  uncounted := hcounts

theorem claim (ha : Agrees id (some h) claimed log) (i : UInt8) :
    Agrees id (some h) (claimed.insert i) (.claim h i (.ok ()) :: log) := by
  refine ⟨ha.lawful.call (ha.proper rfl ⟨rfl, rfl⟩ rfl), ?_, ?_⟩
  · rw [openHandles_of_steady ⟨rfl, rfl⟩, ha.handles]
  · rintro h' hh j hj
    obtain rfl := Option.some.inj hh
    rw [held_claim] at hj
    exact InterfaceSet.mem_insert.2 ((List.mem_cons.1 hj).imp (fun e => e) (ha.held h rfl j))

theorem release (ha : Agrees id (some h) claimed log) (i : UInt8) :
    Agrees id (some h) (claimed.erase i) (.release h i (.ok ()) :: log) := by
  refine ⟨ha.lawful.call (ha.proper rfl ⟨rfl, rfl⟩ rfl), ?_, ?_⟩
  · rw [openHandles_of_steady ⟨rfl, rfl⟩, ha.handles]
  · rintro h' hh j hj
    obtain rfl := Option.some.inj hh
    rw [held_release] at hj
    obtain ⟨hj, hne⟩ := List.mem_filter.1 hj
    exact InterfaceSet.mem_erase.2 ⟨ha.held h rfl j hj, of_decide_eq_true hne⟩

theorem lawful_row (ha : Agrees id (some h) claimed log) {row : HostLog}
    (hrow : ∀ x ∈ row, ∃ i a, x = .release h i a) : Lawful id (row ++ log) := by
  induction row with
  | nil => exact ha.lawful
  | cons x row ih =>
    obtain ⟨⟨i, a, rfl⟩, hrest⟩ := List.forall_mem_cons.1 hrow
    refine (ih hrest).call ⟨fun h' hh => ?_, nofun, nofun, rfl⟩
    obtain rfl := Option.some.inj hh
    rw [openHandles_row hrest]
    exact ha.mem_openHandles

/-- The handle may be closed once a release of every interface claimed has been tried. -/
theorem closed (ha : Agrees id (some h) claimed log) (row : HostLog)
    (hrow : ∀ x ∈ row, ∃ i a, x = .release h i a)
    (hall : ∀ i ∈ claimed, ∃ a, .release h i a ∈ row) (claimed' : InterfaceSet) :
    Agrees id none claimed' (.closeHandle h :: (row ++ log)) := by
  have ho : openHandles (row ++ log) = [h] := (openHandles_row hrow).trans ha.handles
  refine ⟨(ha.lawful_row hrow).call ⟨fun h' hh => ?_, nofun, fun h' hh => ?_, rfl⟩, ?_, nofun⟩
  · obtain rfl := Option.some.inj hh
    rw [ho]
    exact List.mem_singleton_self h
  · obtain rfl := Option.some.inj hh
    exact ⟨row, log, rfl, hrow, fun i hi => hall i (ha.held h rfl i hi)⟩
  · rw [openHandles_closeHandle, ho, List.erase_cons_head]
    rfl

theorem kept (id : HostDeviceId) : Kept (Agrees id) where
  idle ha hx hn := ha.idle hx hn
  opened := opened
  claim := claim
  release := release
  closed := closed

end Agrees

end HostLog

/-! ## Calls of a passthrough device -/

namespace Passthrough

open Host (log_noting)

/-- Whether a device stands for a device of the host, and what it remembers is related to a log. -/
def Follows (R : Option HostHandle → InterfaceSet → HostLog → Prop) (p : Passthrough)
    (id : HostDeviceId) (log : HostLog) : Prop :=
  p.device.id = id ∧ R p.handle p.claimed log

variable {σ : Type} (host : Host σ) {R : Option HostHandle → InterfaceSet → HostLog → Prop}
  (hR : HostLog.Kept R) {p : Passthrough} {id : HostDeviceId} {s : σ × HostLog}

theorem log_accepted {α : Type} (r : Except HostError α × σ × HostLog) :
    (accepted r).2 = r.2 := by
  obtain ⟨_ | _, s⟩ := r <;> rfl

theorem log_readConfiguration (handle : HostHandle) (timeout : Nat) (index : UInt8)
    (s : σ × HostLog) :
    (readConfiguration host.logged handle timeout index s).2.2 = .controlSync handle :: s.2 := by
  unfold readConfiguration
  dsimp only
  split
  all_goals
    rename_i he
    exact log_noting (g := fun _ => .controlSync handle) he

theorem log_notingAll (handle : HostHandle) (l : List UInt8) (s : σ × HostLog) :
    ∃ row, (releaseAll host.logged handle l s).2 = row ++ s.2 ∧
      (∀ x ∈ row, ∃ i a, x = .release handle i a) ∧
      ∀ i ∈ l, ∃ a, .release handle i a ∈ row := by
  induction l generalizing s with
  | nil => exact ⟨[], rfl, nofun, nofun⟩
  | cons i l ih =>
    obtain ⟨row, hs, hrow, hall⟩ := ih (host.logged.release handle i s).2
    refine ⟨row ++ [.release handle i (host.release handle i s.1).1], ?_, fun x hx => ?_, ?_⟩
    · rw [List.append_assoc]
      exact hs
    · rcases List.mem_append.1 hx with hx | hx
      · exact hrow x hx
      · exact ⟨i, _, List.mem_singleton.1 hx⟩
    · refine List.forall_mem_cons.2 ⟨⟨_, List.mem_append_right _ (List.mem_singleton_self _)⟩, ?_⟩
      intro j hj
      obtain ⟨a, ha⟩ := hall j hj
      exact ⟨a, List.mem_append_left _ ha⟩

include hR

theorem follows_openForUse (ha : p.Follows R id s.2) :
    (p.openForUse host.logged s).2.1.Follows R id (p.openForUse host.logged s).2.2.2 := by
  obtain ⟨hid, hlog⟩ := ha
  unfold openForUse
  split
  · exact ⟨hid, hlog⟩
  · rename_i hp
    rw [hp] at hlog
    split
    · rename_i e s' he
      refine ⟨hid, ?_⟩
      rw [hp, log_noting he]
      exact hR.idle hlog rfl nofun
    · rename_i handle s' he
      have hopened := hR.opened hlog p.device.id handle
      rw [← log_noting he] at hopened
      have hdetached (claimed) := hR.idle (hopened claimed) (x := .autoDetach handle) rfl fun _ h => h
      split
      · rename_i e s'' hc
        refine ⟨hid, ?_⟩
        have hc := log_noting hc
        have := hR.idle (hdetached .empty) (x := .claim handle defaultInterface (.error e)) rfl
          fun _ h => h
        rw [hp]
        show R none p.claimed (.closeHandle handle :: s''.2)
        rw [hc]
        exact hR.closed this [] nofun nofun p.claimed
      · rename_i s'' hc
        refine ⟨hid, ?_⟩
        rw [log_noting hc]
        exact hR.claim (hdetached p.claimed) defaultInterface

theorem follows_close (ha : p.Follows R id s.2) :
    (p.close host.logged s).1.Follows R id (p.close host.logged s).2.2 := by
  obtain ⟨hid, hlog⟩ := ha
  unfold close
  split
  · exact ⟨hid, hlog⟩
  · rename_i handle hp
    rw [hp] at hlog
    refine ⟨hid, ?_⟩
    obtain ⟨row, hs, hrow, hall⟩ := log_notingAll host handle p.claimed.toList s
    show R none .empty (.closeHandle handle :: _)
    rw [hs]
    exact hR.closed hlog row hrow hall .empty

/-! ## Reading -/

theorem follows_readConfigurations {handle : HostHandle} {claimed : InterfaceSet} (timeout : Nat)
    (indices : List UInt8) (ha : R (some handle) claimed s.2) :
    R (some handle) claimed
      (readConfigurations host.logged handle timeout indices s).2.2 := by
  induction indices generalizing s with
  | nil => exact ha
  | cons index rest ih =>
    refine ih (s := (readConfiguration host.logged handle timeout index s).2) ?_
    rw [log_readConfiguration]
    exact hR.idle ha rfl fun _ h => h

theorem follows_readDescriptors (ha : p.Follows R id s.2) :
    (p.readDescriptors host.logged s).1.Follows R id (p.readDescriptors host.logged s).2.2 := by
  obtain ⟨hid, hlog⟩ := ha
  unfold readDescriptors
  split
  · exact ⟨hid, hlog⟩
  · split
    · rename_i handle hp
      refine ⟨hid, ?_⟩
      show R p.handle p.claimed _
      rw [hp] at hlog ⊢
      exact follows_readConfigurations host hR p.readTimeout p.configurationIndices hlog
    · rename_i hp
      rw [hp] at hlog
      split
      · rename_i e s' he
        refine ⟨hid, ?_⟩
        rw [hp, log_noting he]
        exact hR.idle hlog rfl nofun
      · rename_i handle s' he
        -- the handle is for the time of the reads only, and nothing is claimed on it
        have hopened := hR.opened hlog p.device.id handle .empty
        rw [← log_noting he] at hopened
        refine ⟨hid, ?_⟩
        show R p.handle p.claimed (.closeHandle handle :: _)
        rw [hp]
        have hread := follows_readConfigurations host hR p.readTimeout p.configurationIndices hopened
        exact hR.closed hread [] nofun nofun p.claimed

/-! ## Requests -/

theorem follows_getConfiguration (ha : p.Follows R id s.2) (room : Nat) :
    p.Follows R id (p.getConfiguration host.logged room s).2.2 := by
  unfold getConfiguration
  split
  · exact ha
  · exact ha
  · rename_i handle _ hp
    have hidle := hR.idle ha.2 (x := .configuration handle) rfl fun _ h => hp.trans h
    split
    all_goals
      rename_i he
      refine ⟨ha.1, ?_⟩
      rw [log_noting (g := fun _ => .configuration handle) he]
      exact hidle

theorem follows_setConfiguration (ha : p.Follows R id s.2) (value : UInt8) :
    (p.setConfiguration host.logged value s).2.1.Follows R id
      (p.setConfiguration host.logged value s).2.2.2 := by
  unfold setConfiguration
  dsimp only
  split
  · exact ha
  · rename_i handle hp
    refine ⟨ha.1, ?_⟩
    rw [log_accepted]
    exact hR.idle ha.2 (x := .setConfiguration handle) rfl fun _ h => hp.trans h

theorem follows_setInterface (ha : p.Follows R id s.2) (number : UInt8) :
    (p.setInterface host.logged number s).2.1.Follows R id
      (p.setInterface host.logged number s).2.2.2 := by
  unfold setInterface
  dsimp only
  split
  · exact ha
  · rename_i handle hp
    have hlog := ha.2
    rw [hp] at hlog
    refine ⟨by split <;> exact ha.1, ?_⟩
    rw [log_accepted]
    generalize he : host.logged.claim handle number s = r
    obtain ⟨e | _, s'⟩ := r
    · show R p.handle p.claimed s'.2
      rw [hp, log_noting he]
      exact hR.idle hlog rfl fun _ h => h
    · show R p.handle (p.claimed.insert number) s'.2
      rw [hp, log_noting he]
      exact hR.claim hlog number

theorem follows_setAlternate (ha : p.Follows R id s.2) (interface setting : UInt8) :
    p.Follows R id (p.setAlternate host.logged interface setting s).2.2 := by
  unfold setAlternate
  split
  · exact ha
  · rename_i handle hp
    exact ⟨ha.1, hR.idle ha.2 (x := .setAlternate handle) rfl fun _ h => hp.trans h⟩

theorem follows_claim (ha : p.Follows R id s.2) (interface : UInt8) :
    (p.claim host.logged interface s).2.1.Follows R id
      (p.claim host.logged interface s).2.2.2 := by
  unfold claim
  split
  · exact ha
  · split
    · exact ha
    · rename_i handle hp
      have hlog := ha.2
      rw [hp] at hlog
      split
      · exact ha
      · split
        · rename_i e s' he
          refine ⟨ha.1, ?_⟩
          rw [hp, log_noting he]
          exact hR.idle hlog rfl fun _ h => h
        · rename_i s' he
          refine ⟨ha.1, ?_⟩
          show R p.handle (p.claimed.insert interface) s'.2
          rw [hp, log_noting he]
          exact hR.claim hlog interface

theorem follows_release (ha : p.Follows R id s.2) (interface : UInt8) :
    (p.release host.logged interface s).2.1.Follows R id
      (p.release host.logged interface s).2.2.2 := by
  unfold release
  split
  · exact ha
  · rename_i handle hp
    have hlog := ha.2
    rw [hp] at hlog
    split
    · rename_i e s' he
      refine ⟨ha.1, ?_⟩
      rw [hp, log_noting he]
      exact hR.idle hlog rfl fun _ h => h
    · rename_i s' he
      refine ⟨ha.1, ?_⟩
      show R p.handle (p.claimed.erase interface) s'.2
      rw [hp, log_noting he]
      exact hR.release hlog interface

theorem follows_isConnected (ha : p.Follows R id s.2) :
    p.Follows R id (p.isConnected host.logged s).2.2 := by
  unfold isConnected
  split
  all_goals
    rename_i he
    refine ⟨ha.1, ?_⟩
    rw [log_noting (g := fun _ => .deviceList) he]
    exact hR.idle ha.2 rfl nofun

end Passthrough

/-! ## Lives -/

/-- A call of one of the methods that every device has, or a change to its state from outside. -/
inductive DeviceCall
  | withState (state : DeviceState)
  | openForUse
  | close
  | readDescriptors
  | getConfiguration (room : Nat)
  | setConfiguration (value : UInt8)
  | setInterface (number : UInt8)
  | setAlternate (interface setting : UInt8)
  | claim (interface : UInt8)
  | release (interface : UInt8)
  | isConnected
  | controlTransfer (setup : SetupPacket) (buffer : GuestBuffer) (service : Service)
  | interruptTransfer (endpoint : UInt8) (buffer : GuestBuffer) (service : Service)
  | isochronousTransfer (service : Service)

namespace Device

variable {σ : Type} (host : Host σ)

def perform (d : Device σ) (s : σ) : DeviceCall → Device σ × σ
  | .withState state => (d.withState state, s)
  | .openForUse => (d.openForUse host s).2
  | .close => d.close host s
  | .readDescriptors => d.readDescriptors host s
  | .getConfiguration room => (d, (d.getConfiguration host room s).2)
  | .setConfiguration value => (d.setConfiguration host value s).2
  | .setInterface number => (d.setInterface host number s).2
  | .setAlternate interface setting => (d, (d.setAlternate host interface setting s).2)
  | .claim interface => (d.claim host interface s).2
  | .release interface => (d.release host interface s).2
  | .isConnected => (d, (d.isConnected host s).2)
  | .controlTransfer setup buffer v => let r := d.controlTransfer setup buffer v s; (r.1, r.2.2)
  | .interruptTransfer endpoint buffer v =>
    let r := d.interruptTransfer endpoint buffer v s
    (r.1, r.2.2)
  | .isochronousTransfer v => let r := d.isochronousTransfer v s; (r.1, r.2.2)

def performAll (d : Device σ) (s : σ) (calls : List DeviceCall) : Device σ × σ :=
  calls.foldl (fun (d, s) call => d.perform host s call) (d, s)

/-- Whatever method of a passthrough device is called, its memory stays related to the log. -/
theorem follows_perform {R : Option HostHandle → InterfaceSet → HostLog → Prop}
    (hR : HostLog.Kept R) {p : Passthrough} {id : HostDeviceId} {s : σ × HostLog}
    (ha : p.Follows R id s.2) (call : DeviceCall) :
    ∃ q s', (passthrough p).perform host.logged s call = (passthrough q, s') ∧
      q.Follows R id s'.2 := by
  cases call with
  | openForUse => exact ⟨_, _, rfl, Passthrough.follows_openForUse host hR ha⟩
  | close => exact ⟨_, _, rfl, Passthrough.follows_close host hR ha⟩
  | readDescriptors => exact ⟨_, _, rfl, Passthrough.follows_readDescriptors host hR ha⟩
  | getConfiguration room => exact ⟨_, _, rfl, Passthrough.follows_getConfiguration host hR ha room⟩
  | setConfiguration value =>
    exact ⟨_, _, rfl, Passthrough.follows_setConfiguration host hR ha value⟩
  | setInterface number => exact ⟨_, _, rfl, Passthrough.follows_setInterface host hR ha number⟩
  | setAlternate interface setting =>
    exact ⟨_, _, rfl, Passthrough.follows_setAlternate host hR ha interface setting⟩
  | claim interface => exact ⟨_, _, rfl, Passthrough.follows_claim host hR ha interface⟩
  | release interface => exact ⟨_, _, rfl, Passthrough.follows_release host hR ha interface⟩
  | isConnected => exact ⟨_, _, rfl, Passthrough.follows_isConnected host hR ha⟩
  | withState | controlTransfer | interruptTransfer | isochronousTransfer => exact ⟨_, _, rfl, ha⟩

/-- Whether a device stands for a device of the host, and what it remembers agrees with a log. -/
def Agrees {σ : Type} : Device σ → HostDeviceId → HostLog → Prop
  | passthrough p, id, log => p.Follows (HostLog.Agrees id) id log
  | emulated _, _, _ | external _, _, _ => False

variable {id : HostDeviceId}

theorem agrees_perform {d : Device (σ × HostLog)} {s : σ × HostLog} (ha : d.Agrees id s.2)
    (call : DeviceCall) :
    (d.perform host.logged s call).1.Agrees id (d.perform host.logged s call).2.2 := by
  cases d with
  | emulated | external => exact ha.elim
  | passthrough p =>
    obtain ⟨q, s', hperform, hq⟩ := follows_perform host (HostLog.Agrees.kept id) ha call
    rw [hperform]
    exact hq

theorem agrees_performAll {d : Device (σ × HostLog)} {s : σ × HostLog} (ha : d.Agrees id s.2)
    (calls : List DeviceCall) :
    (d.performAll host.logged s calls).1.Agrees id (d.performAll host.logged s calls).2.2 := by
  unfold performAll
  induction calls generalizing d s with
  | nil => exact ha
  | cons call rest ih => exact ih (agrees_perform host ha call)

theorem bracketed_discard {d : Device (σ × HostLog)} {s : σ × HostLog} (ha : d.Agrees id s.2) :
    HostLog.Bracketed id (d.discard host.logged s).2 := by
  cases d with
  | emulated | external => exact ha.elim
  | passthrough p =>
    obtain ⟨hid, hclosed⟩ := Passthrough.follows_close host (HostLog.Agrees.kept id) ha
    have hopen := hclosed.handles
    rw [p.handle_close host.logged s] at hopen
    show HostLog.Bracketed id (.unreference (p.close host.logged s).1.device.id ::
      (p.close host.logged s).2.2)
    rw [hid]
    exact hclosed.lawful.bracketed hopen

end Device

/-- **Calls of the host are bracketed.** Whatever methods of a passthrough device are called from
its making to its end, and whatever the host answers, its calls of the host fit together. -/
theorem Passthrough.bracketed_of_calls {σ : Type} (host : Host σ) (device : HostDevice)
    (location : Location) (readTimeout : Nat) (s : σ) (calls : List DeviceCall) :
    let made := Passthrough.attach host.logged device location readTimeout (s, [])
    let used := (Device.passthrough made.1).performAll host.logged made.2 calls
    HostLog.Bracketed device.id (used.1.discard host.logged used.2).2 := by
  have hmade : (Device.passthrough (Passthrough.attach host.logged device location readTimeout
      (s, [])).1 : Device (σ × HostLog)).Agrees device.id [.reference device.id] :=
    ⟨rfl, .reference device.id .empty⟩
  exact Device.bracketed_discard host (Device.agrees_performAll host hmade calls)

/-- The host opens the device but lets it claim nothing: opening fails and leaves nothing open. -/
example :
    let host : Host Unit := { Host.none with openDevice _ s := (.ok 7, s) }
    let made := Passthrough.attach host.logged default default 0 ((), [])
    let used := (Device.passthrough made.1).performAll host.logged made.2 [.openForUse, .close]
    (used.1.discard host.logged used.2).2.reverse =
      [.reference 0, .openDevice 0 (.ok 7), .autoDetach 7, .claim 7 0 (.error .noDevice),
        .closeHandle 7, .unreference 0] := rfl

end VirtualUsb
