import VirtualUsb.Device

/-!
# What devices keep

A device keeps what it is made of and where it stands (`Device.identity`). Opening and closing are
all that changes the host handle that it holds, so every other method keeps its bearing as well
(`Device.bearing`): the handle with which a device reads descriptors when it is not open is closed
at once.
-/

namespace VirtualUsb

/-- What never changes about a device: what it is made of and where it stands. -/
inductive DeviceIdentity
  | emulated (location : Location)
  | passthrough (location : Location) (device : HostDevice)
  | external (location : Location)
  deriving DecidableEq

/-- The place that a device is made for. -/
def DeviceIdentity.location : DeviceIdentity → Location
  | emulated location | passthrough location _ | external location => location

def DeviceIdentity.IsPassthrough : DeviceIdentity → Prop
  | passthrough .. => True
  | emulated _ | external _ => False

/-- What the lists of devices have to do with: what a device is, and which host handle it holds. -/
structure Bearing where
  identity : DeviceIdentity
  handle : Option HostHandle

namespace Passthrough

variable {σ : Type} (host : Host σ) (d : Passthrough) (s : σ)

/-- What a passthrough device keeps for good. -/
def fixed (d : Passthrough) : Location × HostDevice := (d.state.location, d.device)

@[simp] theorem fixed_openForUse : (d.openForUse host s).2.1.fixed = d.fixed := by
  unfold openForUse
  repeat' split
  all_goals rfl

@[simp] theorem fixed_close : (d.close host s).1.fixed = d.fixed := by
  unfold close
  split <;> rfl

/-- What a passthrough device keeps as long as it is neither opened nor closed. -/
def stance (d : Passthrough) : (Location × HostDevice) × Option HostHandle := (d.fixed, d.handle)

theorem stance_readDescriptors : (d.readDescriptors host s).1.stance = d.stance := by
  unfold readDescriptors
  repeat' split
  all_goals rfl

theorem stance_setConfiguration (value : UInt8) :
    (d.setConfiguration host value s).2.1.stance = d.stance := by
  unfold setConfiguration
  dsimp only
  split <;> rfl

theorem stance_claim (interface : UInt8) :
    (d.claim host interface s).2.1.stance = d.stance := by
  unfold claim
  repeat' split
  all_goals rfl

theorem stance_release (interface : UInt8) :
    (d.release host interface s).2.1.stance = d.stance := by
  unfold release
  repeat' split
  all_goals rfl

theorem handle_close : (d.close host s).1.handle = none := by
  unfold close
  split
  · assumption
  · rfl

/-- Opening leaves the device with a handle, or just as it was. -/
theorem openForUse_cases :
    ((d.openForUse host s).1 = .ok () ∧ (d.openForUse host s).2.1.handle.isSome = true) ∨
      ∃ e, (d.openForUse host s).1 = .error e ∧ (d.openForUse host s).2.1 = d := by
  unfold openForUse
  repeat' split
  · rename_i handle hp
    exact .inl ⟨rfl, by rw [hp]; rfl⟩
  · exact .inr ⟨_, rfl, rfl⟩
  · exact .inr ⟨_, rfl, rfl⟩
  · exact .inl ⟨rfl, rfl⟩

theorem eq_of_openForUse_error {e : UsbError} {d' : Passthrough} {s' : σ}
    (h : d.openForUse host s = (.error e, d', s')) : d' = d := by
  rcases d.openForUse_cases host s with ⟨hok, -⟩ | ⟨-, -, hd⟩
  · rw [h] at hok
    exact nomatch hok
  · rw [h] at hd
    exact hd

end Passthrough

namespace Emulated

variable {σ : Type} (d : Emulated σ)

/-- A request changes nothing of a device but which configuration and interface are selected. -/
theorem device_serve (setup : SetupPacket) (data : Bytes) (s : σ) :
    ∃ configuration interface, (d.serve setup data s).1.device =
      { d with state.configuration := configuration, state.interface := interface } := by
  unfold serve serveStandard
  repeat' split
  all_goals exact ⟨_, _, rfl⟩

theorem location_serve (setup : SetupPacket) (data : Bytes) (s : σ) :
    (d.serve setup data s).1.device.state.location = d.state.location := by
  obtain ⟨configuration, interface, h⟩ := d.device_serve setup data s
  rw [h]

theorem location_controlTransfer (setup : SetupPacket) (buffer : GuestBuffer) (v : Service)
    (s : σ) : (d.controlTransfer setup buffer v s).1.state.location = d.state.location :=
  d.location_serve _ _ _

end Emulated

namespace Device

variable {σ : Type} (host : Host σ) (d : Device σ) (s : σ)

/-- What a device keeps for good. -/
def identity : Device σ → DeviceIdentity
  | emulated d => .emulated d.state.location
  | passthrough d => .passthrough d.state.location d.device
  | external d => .external d.state.location

/-- Whether a device is one of the library's own. -/
def IsBuiltIn (d : Device σ) : Prop := ∀ location, d.identity ≠ .external location

theorem isBuiltIn_emulated (d : Emulated σ) : (emulated d).IsBuiltIn := fun _ h => (nomatch h)

theorem isBuiltIn_passthrough (d : Passthrough) : (passthrough d : Device σ).IsBuiltIn :=
  fun _ h => (nomatch h)

theorem IsBuiltIn.of_identity_eq {d d' : Device σ} (h : d.IsBuiltIn)
    (e : d'.identity = d.identity) : d'.IsBuiltIn := fun location => e ▸ h location

theorem identity_passthrough_eq {p q : Passthrough} (h : p.fixed = q.fixed) :
    (passthrough p : Device σ).identity = (passthrough q : Device σ).identity := by
  have hl : p.state.location = q.state.location := congrArg Prod.fst h
  have hd : p.device = q.device := congrArg Prod.snd h
  show DeviceIdentity.passthrough _ _ = .passthrough _ _
  rw [hl, hd]

@[simp] theorem identity_openForUse : (d.openForUse host s).2.1.identity = d.identity := by
  cases d with
  | passthrough p => exact identity_passthrough_eq (p.fixed_openForUse host s)
  | emulated | external => rfl

@[simp] theorem identity_close : (d.close host s).1.identity = d.identity := by
  cases d with
  | passthrough p => exact identity_passthrough_eq (p.fixed_close host s)
  | emulated | external => rfl

/-! ### Bearings -/

def hostHandle? : Device σ → Option HostHandle
  | passthrough p => p.handle
  | emulated _ | external _ => none

def bearing (d : Device σ) : Bearing := ⟨d.identity, d.hostHandle?⟩

theorem location_identity : d.identity.location = d.state.location := by
  cases d <;> rfl

theorem bearing_passthrough_eq {p q : Passthrough} (h : p.stance = q.stance) :
    (passthrough p : Device σ).bearing = (passthrough q : Device σ).bearing := by
  have hh : p.handle = q.handle := congrArg Prod.snd h
  show Bearing.mk _ _ = .mk _ _
  rw [identity_passthrough_eq (congrArg Prod.fst h)]
  exact congrArg (Bearing.mk _) hh

theorem bearing_readDescriptors : (d.readDescriptors host s).1.bearing = d.bearing := by
  cases d with
  | passthrough p => exact bearing_passthrough_eq (p.stance_readDescriptors host s)
  | emulated | external => rfl

theorem bearing_setConfiguration (value : UInt8) :
    (d.setConfiguration host value s).2.1.bearing = d.bearing := by
  cases d with
  | passthrough p => exact bearing_passthrough_eq (p.stance_setConfiguration host s value)
  | emulated | external => rfl

theorem bearing_claim (interface : UInt8) :
    (d.claim host interface s).2.1.bearing = d.bearing := by
  cases d with
  | passthrough p => exact bearing_passthrough_eq (p.stance_claim host s interface)
  | emulated | external => rfl

theorem bearing_release (interface : UInt8) :
    (d.release host interface s).2.1.bearing = d.bearing := by
  cases d with
  | passthrough p => exact bearing_passthrough_eq (p.stance_release host s interface)
  | emulated | external => rfl

theorem bearing_controlTransfer (setup : SetupPacket) (buffer : GuestBuffer) (v : Service) :
    (d.controlTransfer setup buffer v s).1.bearing = d.bearing := by
  cases d with
  | emulated e =>
    exact congrArg (Bearing.mk · none)
      (congrArg DeviceIdentity.emulated (e.location_controlTransfer setup buffer v s))
  | passthrough | external => rfl

theorem bearing_interruptTransfer (endpoint : UInt8) (buffer : GuestBuffer) (v : Service) :
    (d.interruptTransfer endpoint buffer v s).1.bearing = d.bearing := by
  cases d <;> rfl

theorem bearing_isochronousTransfer (v : Service) :
    (d.isochronousTransfer v s).1.bearing = d.bearing := by
  cases d <;> rfl

@[simp] theorem identity_controlTransfer (setup : SetupPacket) (buffer : GuestBuffer)
    (v : Service) : (d.controlTransfer setup buffer v s).1.identity = d.identity :=
  congrArg Bearing.identity (d.bearing_controlTransfer s setup buffer v)

@[simp] theorem identity_interruptTransfer (endpoint : UInt8) (buffer : GuestBuffer)
    (v : Service) : (d.interruptTransfer endpoint buffer v s).1.identity = d.identity :=
  congrArg Bearing.identity (d.bearing_interruptTransfer s endpoint buffer v)

@[simp] theorem identity_isochronousTransfer (v : Service) :
    (d.isochronousTransfer v s).1.identity = d.identity :=
  congrArg Bearing.identity (d.bearing_isochronousTransfer s v)

theorem bearing_close : (d.close host s).1.bearing = ⟨d.identity, none⟩ := by
  unfold bearing
  rw [d.identity_close host s]
  cases d with
  | passthrough p => exact congrArg (Bearing.mk _) (p.handle_close host s)
  | emulated | external => rfl

/-- An opened device holds a handle if it stands for a device of the host. -/
theorem openForUse_cases :
    ((d.openForUse host s).1 = .ok () ∧ (d.identity.IsPassthrough →
        (d.openForUse host s).2.1.bearing.handle.isSome = true)) ∨
      ∃ e, (d.openForUse host s).1 = .error e ∧
        (d.openForUse host s).2.1.bearing = d.bearing := by
  cases d with
  | emulated => exact .inl ⟨rfl, fun h => h.elim⟩
  | passthrough p =>
    rcases p.openForUse_cases host s with ⟨hok, hsome⟩ | ⟨e, he, hp⟩
    · exact .inl ⟨hok, fun _ => hsome⟩
    · exact .inr ⟨e, he, congrArg (fun p => (passthrough p : Device σ).bearing) hp⟩
  | external x =>
    cases hx : (x.openForUse s).1 with
    | ok => exact .inl ⟨hx, fun h => h.elim⟩
    | error e => exact .inr ⟨e, hx, rfl⟩

theorem eq_of_openForUse_error {e : UsbError} {d' : Device σ} {s' : σ}
    (h : d.openForUse host s = (.error e, d', s')) : d' = d := by
  cases d with
  | emulated => exact nomatch congrArg Prod.fst h
  | passthrough p =>
    obtain ⟨he, hp⟩ := Prod.mk.inj h
    obtain ⟨rfl, -⟩ := Prod.mk.inj hp
    exact congrArg Device.passthrough (p.eq_of_openForUse_error host s (Prod.ext he rfl))
  | external x =>
    obtain ⟨-, hx⟩ := Prod.mk.inj h
    exact (Prod.mk.inj hx).1.symm

end Device

end VirtualUsb
