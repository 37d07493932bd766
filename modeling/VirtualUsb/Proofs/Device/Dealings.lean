import VirtualUsb.Proofs.Bus.Moves

/-!
# What may come of a method

`Passthrough.Deals` lists what may come of each method that a bus calls of a device of the host:
which calls of the host it makes, the latest first, and what the device is then. Nothing else comes
of any of them, whatever the host answers (`Passthrough.deals_perform`), so what is kept by each
item of the list is kept by every method.
-/

namespace VirtualUsb

/-- Whether a call has opened, closed, claimed and released nothing, and was not made to do so, but
for a release that the host refused. It does not ask the device for a configuration either. -/
def HostCall.isAside : HostCall → Bool
  | deviceList | configuration _ | setConfiguration _ | setAlternate _ => true
  | release _ _ (.error _) => true
  | _ => false

namespace Passthrough

open Host (log_noting)

/-- What may come of a method of a device: the calls of the host that it makes, the latest first,
and the device that it leaves. -/
inductive Deals (p : Passthrough) : DeviceCall → HostLog → Passthrough → Prop
  /-- The device is as it was, and at most asks for something aside. -/
  | aside {call : DeviceCall} {made : HostLog} (hmade : ∀ x ∈ made, x.isAside = true) :
    Deals p call made p
  /-- A configuration is selected. -/
  | selected {value : UInt8} {made : HostLog} (hmade : ∀ x ∈ made, x.isAside = true) :
    Deals p (.setConfiguration value) made { p with state.configuration := value }
  /-- The host does not open the device. -/
  | unopened {e : HostError} (hp : p.handle = none) :
    Deals p .openForUse [.openDevice p.device.id (.error e)] p
  /-- The host opens the device but does not let its default interface be claimed. -/
  | unclaimed {h : HostHandle} {e : HostError} (hp : p.handle = none) :
    Deals p .openForUse [.closeHandle h, .claim h defaultInterface (.error e), .autoDetach h,
      .openDevice p.device.id (.ok h)] p
  /-- The device is open. -/
  | opened {h : HostHandle} (hp : p.handle = none) :
    Deals p .openForUse
      [.claim h defaultInterface (.ok ()), .autoDetach h, .openDevice p.device.id (.ok h)]
      { p with handle := some h, claimed := p.claimed.insert defaultInterface }
  /-- The device is closed. -/
  | closed {h : HostHandle} {row : HostLog} (hp : p.handle = some h)
    (hrow : ∀ x ∈ row, ∃ i a, x = .release h i a) :
    Deals p .close (.closeHandle h :: row) { p with handle := none, claimed := .empty }
  /-- The host does not open the device for the time of the reads. -/
  | unread {e : HostError} (hp : p.handle = none) (hread : p.complete = false) :
    Deals p .readDescriptors [.openDevice p.device.id (.error e)] p
  /-- The configurations are read under a handle for the time of the reads. -/
  | peeked {h : HostHandle} {row : HostLog} {ts : List DescriptorTree} (hp : p.handle = none)
    (hread : p.complete = false) (hrow : ∀ x ∈ row, x = .controlSync h) :
    Deals p .readDescriptors (.closeHandle h :: (row ++ [.openDevice p.device.id (.ok h)]))
      (p.withConfigurations ts)
  /-- The configurations are read under the handle that is open. -/
  | read {h : HostHandle} {row : HostLog} {ts : List DescriptorTree} (hp : p.handle = some h)
    (hread : p.complete = false) (hrow : ∀ x ∈ row, x = .controlSync h) :
    Deals p .readDescriptors row (p.withConfigurations ts)
  /-- An interface of the active configuration is claimed. -/
  | claimed {h : HostHandle} {i : UInt8} (hp : p.handle = some h)
    (hi : i < p.state.interfaceCount) (hnew : i ∉ p.claimed) :
    Deals p (.claim i) [.claim h i (.ok ())] { p with claimed := p.claimed.insert i }
  /-- The host does not let it be claimed. -/
  | refused {h : HostHandle} {i : UInt8} {e : HostError} (hp : p.handle = some h)
    (hi : i < p.state.interfaceCount) (hnew : i ∉ p.claimed) :
    Deals p (.claim i) [.claim h i (.error e)] p
  /-- An interface is released. -/
  | released {h : HostHandle} {i : UInt8} (hp : p.handle = some h) :
    Deals p (.release i) [.release h i (.ok ())] { p with claimed := p.claimed.erase i }

/-- Whether a method has left a device and the log of its host as may come of it. -/
def Dealt {σ : Type} (p : Passthrough) (call : DeviceCall) (log : HostLog)
    (r : Passthrough × σ × HostLog) : Prop :=
  ∃ made, r.2.2 = made ++ log ∧ p.Deals call made r.1

variable {σ : Type} (host : Host σ) (p : Passthrough) (s : σ × HostLog)

theorem dealt_refl (call : DeviceCall) : p.Dealt call s.2 (p, s) := ⟨[], rfl, .aside nofun⟩

/-- A single call made aside leaves the device as it was. -/
theorem dealt_aside {call : DeviceCall} {x : HostCall} {s' : σ × HostLog} (hx : x.isAside = true)
    (hs : s'.2 = x :: s.2) : p.Dealt call s.2 (p, s') :=
  ⟨[x], hs, .aside fun _ hy => List.mem_singleton.1 hy ▸ hx⟩

/-! ## Opening and closing -/

theorem dealt_openForUse : p.Dealt .openForUse s.2 (p.openForUse host.logged s).2 := by
  unfold openForUse
  split
  · exact p.dealt_refl s _
  · rename_i hp
    split
    · rename_i e s' he
      exact ⟨_, log_noting he, .unopened hp⟩
    · rename_i h s' he
      have hopened : s'.2 = .openDevice p.device.id (.ok h) :: s.2 := log_noting he
      split
      · rename_i e s'' hc
        refine ⟨_, ?_, .unclaimed (h := h) (e := e) hp⟩
        show HostCall.closeHandle h :: s''.2 = _
        rw [log_noting hc]
        exact congrArg (_ :: _ :: _ :: ·) hopened
      · rename_i s'' hc
        refine ⟨_, ?_, .opened (h := h) hp⟩
        rw [log_noting hc]
        exact congrArg (_ :: _ :: ·) hopened

theorem dealt_close : p.Dealt .close s.2 (p.close host.logged s) := by
  unfold close
  split
  · exact p.dealt_refl s _
  · rename_i h hp
    obtain ⟨row, hs, hrow, -⟩ := log_notingAll host h p.claimed.toList s
    refine ⟨.closeHandle h :: row, ?_, .closed hp hrow⟩
    exact congrArg (HostCall.closeHandle h :: ·) hs

theorem dealt_discard : ∃ made, (p.discard host.logged s).2 =
    .unreference p.device.id :: made ++ s.2 ∧ p.Deals .close made (p.close host.logged s).1 := by
  obtain ⟨made, hs, hdeals⟩ := p.dealt_close host s
  have hdevice : (p.close host.logged s).1.device = p.device :=
    congrArg (·.2) (p.fixed_close host.logged s)
  refine ⟨made, ?_, hdeals⟩
  rw [List.cons_append, ← hs, ← hdevice]
  rfl

/-! ## Reading -/

theorem log_readConfigurations (h : HostHandle) (timeout : Nat) (indices : List UInt8) :
    ∃ row, (readConfigurations host.logged h timeout indices s).2.2 = row ++ s.2 ∧
      ∀ x ∈ row, x = .controlSync h := by
  induction indices generalizing s with
  | nil => exact ⟨[], rfl, nofun⟩
  | cons index rest ih =>
    obtain ⟨row, hs, hrow⟩ := ih (readConfiguration host.logged h timeout index s).2
    rw [log_readConfiguration] at hs
    refine ⟨row ++ [.controlSync h], hs.trans (List.append_cons ..), fun x hx => ?_⟩
    rcases List.mem_append.1 hx with hx | hx
    · exact hrow x hx
    · exact List.mem_singleton.1 hx

theorem dealt_readDescriptors :
    p.Dealt .readDescriptors s.2 (p.readDescriptors host.logged s) := by
  unfold readDescriptors
  split
  · exact p.dealt_refl s _
  · rename_i hread
    rw [Bool.not_eq_true] at hread
    split
    · rename_i h hp
      obtain ⟨row, hs, hrow⟩ := log_readConfigurations host s h p.readTimeout p.configurationIndices
      exact ⟨row, hs, .read hp hread hrow⟩
    · rename_i hp
      split
      · rename_i e s' he
        exact ⟨_, log_noting he, .unread hp hread⟩
      · rename_i h s' he
        obtain ⟨row, hs, hrow⟩ :=
          log_readConfigurations host s' h p.readTimeout p.configurationIndices
        refine ⟨_, ?_, .peeked (h := h) hp hread hrow⟩
        show HostCall.closeHandle h :: _ = _
        rw [hs, log_noting he, List.append_cons]
        rfl

/-! ## Requests -/

theorem dealt_getConfiguration (room : Nat) :
    p.Dealt (.getConfiguration room) s.2 (p, (p.getConfiguration host.logged room s).2) := by
  unfold getConfiguration
  split
  · exact p.dealt_refl s _
  · exact p.dealt_refl s _
  · rename_i h _ hp
    split
    all_goals
      rename_i he
      exact p.dealt_aside s rfl (log_noting (g := fun _ => .configuration h) he)

theorem dealt_setConfiguration (value : UInt8) :
    p.Dealt (.setConfiguration value) s.2 (p.setConfiguration host.logged value s).2 := by
  unfold setConfiguration
  dsimp only
  split
  · exact ⟨[], rfl, .selected nofun⟩
  · rename_i h _
    refine ⟨[.setConfiguration h], ?_, .selected fun _ hx => List.mem_singleton.1 hx ▸ rfl⟩
    rw [log_accepted]
    rfl

theorem dealt_setAlternate (interface setting : UInt8) :
    p.Dealt (.setAlternate interface setting) s.2
      (p, (p.setAlternate host.logged interface setting s).2) := by
  unfold setAlternate
  split
  · exact p.dealt_refl s _
  · rename_i h _
    exact p.dealt_aside s (x := .setAlternate h) rfl rfl

theorem dealt_claim (i : UInt8) : p.Dealt (.claim i) s.2 (p.claim host.logged i s).2 := by
  unfold claim
  split
  · exact p.dealt_refl s _
  · rename_i hi
    rw [UInt8.not_le] at hi
    split
    · exact p.dealt_refl s _
    · rename_i h hp
      split
      · exact p.dealt_refl s _
      · rename_i hnew
        split
        · rename_i e s' he
          exact ⟨_, log_noting he, .refused hp hi hnew⟩
        · rename_i s' he
          exact ⟨_, log_noting he, .claimed hp hi hnew⟩

theorem dealt_release (i : UInt8) : p.Dealt (.release i) s.2 (p.release host.logged i s).2 := by
  unfold release
  split
  · exact p.dealt_refl s _
  · rename_i h hp
    split
    · rename_i e s' he
      exact p.dealt_aside s (x := .release h i (.error e)) rfl (log_noting he)
    · rename_i s' he
      exact ⟨_, log_noting he, .released hp⟩

theorem dealt_isConnected :
    p.Dealt .isConnected s.2 (p, (p.isConnected host.logged s).2) := by
  unfold isConnected
  split
  all_goals
    rename_i he
    exact p.dealt_aside s rfl (log_noting (g := fun _ => .deviceList) he)

/-! ## Methods -/

/-- What comes of a method that a bus calls is on the list. -/
theorem deals_perform {call : DeviceCall} (hcall : call.OfBus) :
    ∃ made q s', (Device.passthrough p).perform host.logged s call = (.passthrough q, s') ∧
      s'.2 = made ++ s.2 ∧ p.Deals call made q := by
  have of_dealt {r : Passthrough × σ × HostLog} (h : p.Dealt call s.2 r)
      (e : (Device.passthrough p).perform host.logged s call = (.passthrough r.1, r.2)) :
      ∃ made q s', (Device.passthrough p).perform host.logged s call = (.passthrough q, s') ∧
        s'.2 = made ++ s.2 ∧ p.Deals call made q := by
    obtain ⟨made, hs, hdeals⟩ := h
    exact ⟨made, _, _, e, hs, hdeals⟩
  cases call with
  | withState | setInterface => exact hcall.elim
  | openForUse => exact of_dealt (p.dealt_openForUse host s) rfl
  | close => exact of_dealt (p.dealt_close host s) rfl
  | readDescriptors => exact of_dealt (p.dealt_readDescriptors host s) rfl
  | getConfiguration room => exact of_dealt (p.dealt_getConfiguration host s room) rfl
  | setConfiguration value => exact of_dealt (p.dealt_setConfiguration host s value) rfl
  | setAlternate interface setting =>
    exact of_dealt (p.dealt_setAlternate host s interface setting) rfl
  | claim i => exact of_dealt (p.dealt_claim host s i) rfl
  | release i => exact of_dealt (p.dealt_release host s i) rfl
  | isConnected => exact of_dealt (p.dealt_isConnected host s) rfl
  | controlTransfer | interruptTransfer | isochronousTransfer =>
    exact of_dealt (p.dealt_refl s _) rfl

end Passthrough

namespace Device

variable {σ : Type}

/-- The device of the host that a device stands for, if it stands for one. -/
def ofHost? : Device σ → Option Passthrough
  | passthrough p => some p
  | emulated _ | external _ => none

theorem eq_passthrough_of_ofHost? {d : Device σ} {p : Passthrough} (h : d.ofHost? = some p) :
    d = .passthrough p := by
  cases d with
  | passthrough q => rw [Option.some.inj h]
  | emulated | external => exact nomatch h

end Device

end VirtualUsb
