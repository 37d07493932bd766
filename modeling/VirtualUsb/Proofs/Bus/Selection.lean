import VirtualUsb.Proofs.Bus.Moves
import VirtualUsb.Proofs.Transfer.Submission

/-!
# Selecting a configuration

A device of the host notes the configuration that is selected before the host is asked for it, and
the note stays when the host refuses. So a refused selection leaves the bus just as an agreed one
does (`Bus.selection_of_refused`): packet sizes and the interfaces that may be claimed are then
those of the refused configuration (`Scene.selection_of_stubborn_host`).
-/

namespace VirtualUsb

def DeviceState.selecting (d : DeviceState) (value : UInt8) : DeviceState :=
  { d with configuration := value }

namespace Passthrough

variable {σ : Type} (host : Host σ) (d : Passthrough) (value : UInt8) (s : σ)

/-- The device with another configuration noted as selected. -/
def selecting (d : Passthrough) (value : UInt8) : Passthrough :=
  { d with state := d.state.selecting value }

/-- Whether the device, once its descriptors are read, offers the same configuration whichever of
two values is selected. -/
def OffersSame (value value' : UInt8) (s : σ) : Prop :=
  let read := (d.readDescriptors host s).1.state
  (read.selecting value).activeConfiguration = (read.selecting value').activeConfiguration

theorem readDescriptors_selecting :
    (d.selecting value).readDescriptors host s =
      ((d.readDescriptors host s).1.selecting value, (d.readDescriptors host s).2) := by
  obtain ⟨state, device, handle, claimed, complete, timeout⟩ := d
  unfold readDescriptors selecting
  cases complete with
  | true => rfl
  | false =>
    cases handle with
    | some handle => rfl
    | none =>
      dsimp only [Bool.false_eq_true, if_false]
      rcases host.openDevice device.id s with ⟨_ | handle, s'⟩ <;> rfl

theorem configuration_readDescriptors :
    (d.readDescriptors host s).1.state.configuration = d.state.configuration := by
  unfold readDescriptors
  repeat' split
  all_goals rfl

/-- Which answer a claim gets depends on the active configuration alone. -/
theorem claim_selecting (interface : UInt8)
    (hactive : (d.state.selecting value).activeConfiguration = d.state.activeConfiguration) :
    ((d.selecting value).claim host interface s).1 = (d.claim host interface s).1 := by
  have hcount : (d.state.selecting value).interfaceCount = d.state.interfaceCount := by
    unfold DeviceState.interfaceCount
    rw [hactive]
  obtain ⟨state, device, handle, claimed, complete, timeout⟩ := d
  unfold claim selecting
  dsimp only at hcount ⊢
  rw [hcount]
  by_cases hin : state.interfaceCount ≤ interface
  · rw [if_pos hin, if_pos hin]
  · rw [if_neg hin, if_neg hin]
    cases handle with
    | none => rfl
    | some handle =>
      dsimp only
      by_cases hmem : interface ∈ claimed
      · rw [if_pos hmem, if_pos hmem]
      · rw [if_neg hmem, if_neg hmem]
        rcases host.claim handle interface s with ⟨_ | _, s'⟩ <;> rfl

/-- A selection is noted, whatever the host says. -/
theorem setConfiguration_device : (d.setConfiguration host value s).2.1 = d.selecting value := by
  unfold setConfiguration
  dsimp only
  split <;> rfl

/-- A selection fails without a host handle, and else just if the host refuses it. -/
theorem setConfiguration_eq_false_iff :
    (d.setConfiguration host value s).1 = false ↔
      ∀ handle, d.handle = some handle →
        ∃ e, (host.setConfiguration handle value s).1 = .error e := by
  unfold setConfiguration
  cases hh : d.handle with
  | none => exact iff_of_true rfl nofun
  | some handle =>
    dsimp only
    rcases hr : host.setConfiguration handle value s with ⟨e | _, s'⟩
    · refine iff_of_true rfl fun handle' e' => ?_
      obtain rfl := Option.some.inj e'
      exact ⟨e, congrArg Prod.fst hr⟩
    · refine iff_of_false Bool.noConfusion fun hall => ?_
      obtain ⟨e, he⟩ := hall handle rfl
      rw [hr] at he
      exact nomatch he

end Passthrough

/-! ## Requests after a selection -/

/-- Looking up the device of an attachment finds what it found before another state of one device
was noted, unless it finds that device. -/
theorem Roster.lookup_set {σ : Type} {r : Roster σ} {key : DeviceKey} {d : Device σ}
    (hd : r.get? key = some d) (d' : Device σ) (a : Option Attachment) :
    let found (r : Roster σ) := a.bind fun a => (r.get? a.key).map (a.key, ·)
    found (r.set key d') = found r ∨
      found r = some (key, d) ∧ found (r.set key d') = some (key, d') := by
  cases a with
  | none => exact .inl rfl
  | some a =>
    dsimp only [Option.bind_some]
    rw [get?_set_of_get? hd]
    by_cases hkey : key = a.key
    · subst hkey
      rw [if_pos rfl, hd]
      exact .inr ⟨rfl, rfl⟩
    · rw [if_neg hkey]
      exact .inl rfl

namespace Bus

section

variable {σ : Type} {b : Bus σ} {key : DeviceKey} {d : Device σ}

theorem knownDevice_withDevice (hd : b.roster.get? key = some d) (d' : Device σ)
    (location : Location) :
    (b.withDevice key d').knownDevice location = b.knownDevice location ∨
      b.knownDevice location = some (key, d) ∧
        (b.withDevice key d').knownDevice location = some (key, d') :=
  Roster.lookup_set hd d' _

theorem openedDevice_withDevice (hd : b.roster.get? key = some d) (d' : Device σ) (h : Handle) :
    (b.withDevice key d').openedDevice h = b.openedDevice h ∨
      b.openedDevice h = some (key, d) ∧ (b.withDevice key d').openedDevice h = some (key, d') :=
  Roster.lookup_set hd d' _

end

variable {σ : Type} (host : Host σ) (b : Bus σ) (s : σ)

/-- The answer about the packet size of an endpoint, once the descriptors are read. -/
def packetAnswer (d : DeviceState) (endpoint : UInt8) : Except UsbError UInt16 :=
  match d.activeConfiguration.bind (·.findEndpoint endpoint) with
  | none => .error .notFound
  | some e => .ok e.maxPacketSize

theorem packetAnswer_congr {d d' : DeviceState}
    (h : d.activeConfiguration = d'.activeConfiguration) (endpoint : UInt8) :
    packetAnswer d endpoint = packetAnswer d' endpoint := by
  unfold packetAnswer
  rw [h]

theorem maxPacketSize_fst (location : Location) (endpoint : UInt8) :
    (b.maxPacketSize host location endpoint s).1 =
      match b.knownDevice location with
      | none => .error .noDevice
      | some (_, d) => packetAnswer (d.readDescriptors host s).1.state endpoint := by
  unfold maxPacketSize readAt packetAnswer
  rcases b.knownDevice location with _ | ⟨key, d⟩
  · rfl
  · dsimp only
    cases (d.readDescriptors host s).1.state.activeConfiguration.bind (·.findEndpoint endpoint) <;>
      rfl

theorem claim_fst (h : Handle) (interface : UInt8) :
    (b.claim host h interface s).1 =
      match b.openedDevice h with
      | none => .error .noDevice
      | some (_, d) =>
        ((d.readDescriptors host s).1.claim host interface (d.readDescriptors host s).2).1 := by
  unfold claim
  rcases b.openedDevice h with _ | ⟨key, d⟩ <;> rfl

variable {b s} {key : DeviceKey} {p : Passthrough} {value : UInt8}

/-- A device that offers the same configuration whichever value is selected answers the same about
its packet sizes and when its interfaces are claimed. -/
theorem answers_withDevice_selecting (hp : b.roster.get? key = some (.passthrough p))
    (hsame : p.OffersSame host value p.state.configuration s) :
    let b' := b.withDevice key (.passthrough (p.selecting value))
    (∀ location endpoint, (b'.maxPacketSize host location endpoint s).1 =
        (b.maxPacketSize host location endpoint s).1) ∧
      ∀ h interface, (b'.claim host h interface s).1 = (b.claim host h interface s).1 := by
  intro b'
  have hself : (p.readDescriptors host s).1.state.selecting p.state.configuration =
      (p.readDescriptors host s).1.state := by
    rw [← p.configuration_readDescriptors host s]
    rfl
  have hactive : ((p.readDescriptors host s).1.state.selecting value).activeConfiguration =
      (p.readDescriptors host s).1.state.activeConfiguration :=
    hsame.trans (congrArg _ hself)
  have hread := p.readDescriptors_selecting host value s
  constructor
  · intro location endpoint
    rw [maxPacketSize_fst, maxPacketSize_fst]
    rcases knownDevice_withDevice hp (.passthrough (p.selecting value)) location with e | ⟨e, e'⟩
    · rw [e]
    · rw [e, e']
      show packetAnswer ((p.selecting value).readDescriptors host s).1.state endpoint =
        packetAnswer (p.readDescriptors host s).1.state endpoint
      rw [hread]
      exact packetAnswer_congr hactive endpoint
  · intro h interface
    rw [claim_fst, claim_fst]
    rcases openedDevice_withDevice hp (.passthrough (p.selecting value)) h with e | ⟨e, e'⟩
    · rw [e]
    · rw [e, e']
      show (((p.selecting value).readDescriptors host s).1.claim host interface
          ((p.selecting value).readDescriptors host s).2).1 =
        ((p.readDescriptors host s).1.claim host interface (p.readDescriptors host s).2).1
      rw [hread]
      exact Passthrough.claim_selecting host _ value _ interface hactive

/-! ## Refused selections -/

/-- **A refused selection is noted all the same.** Selecting a configuration fails if the device is
not open, and then nothing changes. Else it fails for a device of the host alone, if that has no
host handle or its host refuses. The device then has the refused configuration selected, just as if
the host had agreed, and nothing else on the bus changes. So packet sizes and claims of interfaces
are answered as without the call as long as the device offers the same configuration for either
value, and the bus is as it was just if the value was selected before. -/
theorem selection_of_refused {b : Bus σ} {h : Handle} {value : UInt8} {s : σ} {e : UsbError}
    (herr : (b.setConfiguration host h value s).1 = .error e) :
    e = .noDevice ∧ b.openedDevice h = none ∧ (b.setConfiguration host h value s).2 = (b, s) ∨
      e = .io ∧ ∃ key p, b.openedDevice h = some (key, .passthrough p) ∧
        (∀ handle, p.handle = some handle →
          ∃ refusal, (host.setConfiguration handle value s).1 = .error refusal) ∧
        (b.setConfiguration host h value s).2.1 =
          b.withDevice key (.passthrough (p.selecting value)) ∧
        (∀ (host' : Host σ) (s' : σ), (b.setConfiguration host' h value s').2.1 =
          (b.setConfiguration host h value s).2.1) ∧
        ((b.setConfiguration host h value s).2.1 = b ↔ value = p.state.configuration) ∧
        ∀ later, p.OffersSame host value p.state.configuration later →
          (∀ location endpoint,
            ((b.setConfiguration host h value s).2.1.maxPacketSize host location endpoint later).1 =
              (b.maxPacketSize host location endpoint later).1) ∧
          ∀ h' interface,
            ((b.setConfiguration host h value s).2.1.claim host h' interface later).1 =
              (b.claim host h' interface later).1 := by
  cases hd : b.openedDevice h with
  | none =>
    have hcall (host' : Host σ) (s' : σ) :
        b.setConfiguration host' h value s' = (.error .noDevice, b, s') := by
      unfold setConfiguration
      rw [hd]
    rw [hcall] at herr ⊢
    exact .inl ⟨(Except.error.inj herr).symm, rfl, rfl⟩
  | some found =>
    obtain ⟨key, d⟩ := found
    have hcall (host' : Host σ) (s' : σ) := setConfiguration_of_openedDevice host' s' hd value
    rw [hcall] at herr
    cases d with
    | emulated | external => exact nomatch herr
    | passthrough p =>
      have hget := roster_of_openedDevice hd
      have hbus (host' : Host σ) (s' : σ) : (b.setConfiguration host' h value s').2.1 =
          b.withDevice key (.passthrough (p.selecting value)) := by
        rw [hcall]
        exact congrArg (b.withDevice key ∘ Device.passthrough)
          (p.setConfiguration_device host' value s')
      have hfalse : (p.setConfiguration host value s).1 = false := by
        by_contra hok
        rw [Bool.not_eq_false] at hok
        exact nomatch (if_pos hok).symm.trans herr
      have hio : (Except.error UsbError.io : Except UsbError Unit) = .error e := by
        rw [← herr]
        exact (if_neg (Bool.eq_false_iff.1 hfalse)).symm
      refine .inr ⟨(Except.error.inj hio).symm, key, p, rfl,
        (p.setConfiguration_eq_false_iff host value s).1 hfalse, hbus host s, ?_, ?_, ?_⟩
      · intro host' s'
        rw [hbus, hbus]
      · rw [hbus]
        constructor
        · intro hb
          have hkey : (b.withDevice key (.passthrough (p.selecting value))).roster.get? key =
              some (.passthrough (p.selecting value)) := Roster.get?_set_self hget _
          rw [hb, hget] at hkey
          have hpassthrough := Device.passthrough.inj (Option.some.inj hkey)
          exact congrArg (·.state.configuration) hpassthrough.symm
        · rintro rfl
          exact congrArg (fun r => { b with roster := r }) (Roster.set_eq_self hget)
      · intro later hsame
        rw [hbus]
        exact answers_withDevice_selecting host hget hsame

end Bus

/-! ### A host that refuses -/

/-- A configuration with the given number of interfaces, one of which has an interrupt endpoint. -/
def configurationWith (value interfaces : UInt8) (packetSize : UInt16) : DescriptorTree :=
  .node (.ofLayout ({ totalLength := 25, numInterfaces := interfaces, value } :
      ConfigurationDescriptor))
    [.node (.ofLayout ({ numEndpoints := 1 } : InterfaceDescriptor))
      [.ofLayout ({ address := 129, attributes := 3, maxPacketSize := packetSize } :
        EndpointDescriptor)]]

/-- A host that reads the configurations of a device but refuses to select one of them. -/
def Host.stubborn : Host Unit :=
  { Host.obliging with
    controlSync _ setup _ _ s :=
      if Bytes.low setup.value = 0 then (.ok (25, (configurationWith 1 1 8).toBytes), s)
      else (.ok (25, (configurationWith 2 2 64).toBytes), s) }

namespace Scene

open Host (stubborn)

/-- A bus with an open device that has two configurations. -/
def choosing : Scene Unit :=
  (Scene.after .stubborn blank (.attach (.passthrough (.idle
    { id := 20, descriptor := { numConfigurations := 2 } })))).after .stubborn
    (.openRecord default)

theorem reached_choosing :
    Reached .stubborn (fun c op => c.bus.AttachesClosed op) blank choosing :=
  (Reached.first.after _ rfl).after _ trivial

/-- The bus after the second configuration was refused. -/
def refused : Scene Unit := choosing.after .stubborn (.setConfiguration default 2)

theorem setConfiguration_choosing :
    (choosing.bus.setConfiguration stubborn default 2 ()).1 = .error .io := rfl

/-- Selecting the second configuration fails as the host refuses it, and it is selected. -/
theorem selection_of_stubborn :
    (choosing.bus.setConfiguration stubborn default 2 ()).1 = .error .io ∧
      ∃ key p, choosing.bus.openedDevice default = some (key, .passthrough p) ∧
        (choosing.bus.setConfiguration stubborn default 2 ()).2.1 =
          choosing.bus.withDevice key (.passthrough (p.selecting 2)) := by
  refine ⟨setConfiguration_choosing, ?_⟩
  obtain ⟨e, -⟩ | ⟨-, key, p, hp, -, hbus, -⟩ :=
    Bus.selection_of_refused stubborn setConfiguration_choosing
  · exact nomatch e
  · exact ⟨key, p, hp, hbus⟩

/-- A selection that failed changes the configuration that a device has selected, the packet size of
its endpoint and the interfaces that may be claimed. -/
theorem selection_of_stubborn_host :
    Reached .stubborn (fun c op => c.bus.AttachesClosed op) blank choosing ∧
      (choosing.bus.setConfiguration stubborn default 2 ()).1 = .error .io ∧
      (choosing.bus.roster.get? ⟨0⟩).map (·.state.configuration) = some 1 ∧
      (refused.bus.roster.get? ⟨0⟩).map (·.state.configuration) = some 2 ∧
      (choosing.bus.maxPacketSize stubborn default 129 ()).1 = .ok 8 ∧
      (refused.bus.maxPacketSize stubborn default 129 ()).1 = .ok 64 ∧
      (choosing.bus.claim stubborn default 1 ()).1 = .error .invalidArgument ∧
      (refused.bus.claim stubborn default 1 ()).1 = .ok () := by
  refine ⟨reached_choosing, rfl, rfl, rfl, ?_⟩
  decide +kernel

end Scene

end VirtualUsb
