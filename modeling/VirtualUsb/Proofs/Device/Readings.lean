import VirtualUsb.Proofs.Bus.Moves
import VirtualUsb.Proofs.Host.Transcript

/-!
# What devices have read

A passthrough device knows the configurations that the replies to one reading can be parsed as, and
the handle that it holds was opened for it (`Passthrough.VouchedBy`). Every method adds to the
transcript at most, and leaves what the device knows vouched for by it (`Device.sound_perform`).
-/

namespace VirtualUsb

/-! ## Devices of the host -/

namespace Passthrough

open Host (transcript_passing transcript_openDevice transcript_openDevice_ok)

variable {σ : Type} (host : Host σ) {p q : Passthrough} {tr tr' : Transcript} {s : σ × Transcript}

/-- Whether a transcript bears out what a device knows: the handle that it holds was opened for it,
and its configurations are those that the replies to one reading can be parsed as. -/
structure VouchedBy (p : Passthrough) (tr : Transcript) : Prop where
  opened : ∀ handle, p.handle = some handle → .opened p.device.id handle ∈ tr
  read : p.state.descriptors.children = [] ∨ ∃ replies, tr.Reading p.device.id replies ∧
    p.state.descriptors.children = replies.filterMap Configuration.ofReply

/-- Whether a method has left a device and its world so that the transcript was only added to, and
bears out what the device knows. -/
structure Sound (tr : Transcript) (r : Passthrough × σ × Transcript) : Prop where
  added : tr <:+ r.2.2
  vouched : r.1.VouchedBy r.2.2

namespace VouchedBy

theorem mono (h : p.VouchedBy tr) (hs : tr <:+ tr') : p.VouchedBy tr' where
  opened handle hp := hs.mem (h.opened handle hp)
  read := h.read.imp_right fun ⟨replies, hreading, hc⟩ => ⟨replies, hreading.mono hs, hc⟩

theorem refl (h : p.VouchedBy s.2) : Sound s.2 (p, s) := ⟨List.suffix_rfl, h⟩

/-- A method that reads nothing and opens nothing leaves a device vouched for. -/
theorem of_same {s' : σ × Transcript} (h : p.VouchedBy tr) (hdevice : q.device = p.device)
    (hchildren : q.state.descriptors = p.state.descriptors)
    (hhandle : ∀ handle, q.handle = some handle → p.handle = some handle) (htr : s'.2 = tr) :
    Sound tr (q, s') := by
  subst htr
  refine ⟨List.suffix_rfl, fun handle hq => ?_, ?_⟩
  · rw [hdevice]
    exact h.opened handle (hhandle handle hq)
  · rw [hchildren, hdevice]
    exact h.read

end VouchedBy

/-! ### Opening and closing -/

theorem sound_openForUse (h : p.VouchedBy s.2) :
    Sound s.2 (p.openForUse host.transcribed s).2 := by
  unfold openForUse
  split
  · exact h.refl
  · rename_i hp
    split
    · rename_i e s' he
      exact h.of_same rfl rfl (fun _ hq => hq) (transcript_openDevice he)
    · rename_i handle s' he
      obtain ⟨hs, hopened⟩ := transcript_openDevice_ok he
      split
      · rename_i e s'' hc
        have hc : s''.2 = s'.2 :=
          (transcript_passing (f := host.claim handle defaultInterface) hc).trans rfl
        rw [← hc] at hs
        exact ⟨hs, h.mono hs⟩
      · rename_i s'' hc
        have hc : s''.2 = s'.2 :=
          (transcript_passing (f := host.claim handle defaultInterface) hc).trans rfl
        rw [← hc] at hs hopened
        refine ⟨hs, fun handle' hq => ?_, (h.mono hs).read⟩
        obtain rfl := Option.some.inj hq
        exact hopened

theorem transcript_releaseAll (handle : HostHandle) (l : List UInt8) (s : σ × Transcript) :
    (releaseAll host.transcribed handle l s).2 = s.2 := by
  unfold releaseAll
  induction l generalizing s with
  | nil => rfl
  | cons i l ih => exact ih _

theorem sound_close (h : p.VouchedBy s.2) : Sound s.2 (p.close host.transcribed s) := by
  unfold close
  split
  · exact h.refl
  · exact h.of_same rfl rfl nofun (transcript_releaseAll host _ _ s)

/-! ### Reading -/

/-- Reading replaces what a device knows by what it says now. -/
theorem sound_readAll (h : p.VouchedBy s.2) {handle : HostHandle}
    (hopened : .opened p.device.id handle ∈ s.2) :
    let r := readConfigurations host.transcribed handle p.readTimeout p.configurationIndices s
    Sound s.2 (p.withConfigurations r.1, r.2) := by
  intro r
  obtain ⟨replies, hlen, hreads, hrow⟩ := readConfigurations_transcribed host handle p.readTimeout
    p.configurationIndices s
  have hnum : replies.length = p.numConfigurations.toNat := by
    rw [hlen, configurationIndices, List.length_map, List.length_range]
  have hs : s.2 <:+ r.2.2 := by
    rw [hrow]
    exact List.suffix_append _ _
  refine ⟨hs, (h.mono hs).opened, .inr ⟨replies, ⟨?_, handle, s.2, hopened, ?_⟩, hreads⟩⟩
  · rw [hnum]
    exact UInt8.toNat_lt_size _
  · rw [hnum]
    exact hrow ▸ List.suffix_rfl

theorem sound_readDescriptors (h : p.VouchedBy s.2) :
    Sound s.2 (p.readDescriptors host.transcribed s) := by
  unfold readDescriptors
  split
  · exact h.refl
  · split
    · rename_i handle hp
      exact sound_readAll host h (h.opened handle hp)
    · split
      · rename_i e s' he
        exact h.of_same rfl rfl (fun _ hq => hq) (transcript_openDevice he)
      · rename_i handle s' he
        obtain ⟨hs, hopened⟩ := transcript_openDevice_ok he
        obtain ⟨hs', hread⟩ := sound_readAll host (h.mono hs) hopened
        exact ⟨hs.trans hs', hread⟩

/-! ### Requests -/

theorem transcript_getConfiguration (p : Passthrough) (room : Nat) (s : σ × Transcript) :
    (p.getConfiguration host.transcribed room s).2.2 = s.2 := by
  unfold getConfiguration
  split
  · rfl
  · rfl
  · rename_i handle _ _
    split
    all_goals
      rename_i he
      exact transcript_passing (f := host.configuration handle) he

theorem sound_setConfiguration (h : p.VouchedBy s.2) (value : UInt8) :
    Sound s.2 (p.setConfiguration host.transcribed value s).2 := by
  unfold setConfiguration
  dsimp only
  split
  · exact h.of_same rfl rfl (fun _ hq => hq) rfl
  · refine h.of_same rfl rfl (fun _ hq => hq) ?_
    unfold accepted
    split
    all_goals
      rename_i he
      exact transcript_passing (f := host.setConfiguration _ value) he

theorem transcript_setAlternate (p : Passthrough) (interface setting : UInt8)
    (s : σ × Transcript) :
    (p.setAlternate host.transcribed interface setting s).2.2 = s.2 := by
  unfold setAlternate
  split <;> rfl

theorem sound_claim (h : p.VouchedBy s.2) (interface : UInt8) :
    Sound s.2 (p.claim host.transcribed interface s).2 := by
  unfold claim
  split
  · exact h.refl
  · split
    · exact h.refl
    · rename_i handle _
      split
      · exact h.refl
      · split
        all_goals
          rename_i he
          exact h.of_same rfl rfl (fun _ hq => hq)
            (transcript_passing (f := host.claim handle interface) he)

theorem sound_release (h : p.VouchedBy s.2) (interface : UInt8) :
    Sound s.2 (p.release host.transcribed interface s).2 := by
  unfold release
  split
  · exact h.refl
  · rename_i handle _
    split
    all_goals
      rename_i he
      exact h.of_same rfl rfl (fun _ hq => hq)
        (transcript_passing (f := host.release handle interface) he)

theorem transcript_isConnected (p : Passthrough) (s : σ × Transcript) :
    (p.isConnected host.transcribed s).2.2 = s.2 := by
  unfold isConnected
  split
  all_goals
    rename_i he
    exact transcript_passing (f := host.deviceList) he

end Passthrough

/-! ## Devices made of software -/

section

variable {σ τ : Type}

/-- Whether a peripheral leaves alone what the world keeps besides its own part. -/
structure Peripheral.IsApart (p : Peripheral (σ × τ)) : Prop where
  control : ∀ setup data s, (p.control setup data s).2.2 = s.2
  interrupt : ∀ endpoint data s, (p.interrupt endpoint data s).2.2 = s.2

/-- Whether the code of a device that a caller brings along leaves it alone. -/
structure External.IsApart (x : External (σ × τ)) : Prop where
  opening : ∀ s, (x.openForUse s).2.2 = s.2
  control : ∀ setup buffer v s, ((x.control setup buffer).run v s).2.2 = s.2
  interrupt : ∀ endpoint buffer v s, ((x.interrupt endpoint buffer).run v s).2.2 = s.2
  isochronous : ∀ v s, (x.isochronous.run v s).2.2 = s.2

namespace Emulated

variable {e : Emulated (σ × τ)} (h : ∀ p ∈ e.peripheral, p.IsApart)
include h

theorem snd_serve (setup : SetupPacket) (data : Bytes) (s : σ × τ) :
    (e.serve setup data s).2.2 = s.2 := by
  unfold serve
  split
  · rfl
  · split
    · rfl
    · rename_i p hp
      exact (h p hp).control setup data s

theorem snd_interruptTransfer (endpoint : UInt8) (buffer : GuestBuffer) (v : Service)
    (s : σ × τ) : (e.interruptTransfer endpoint buffer v s).2.2 = s.2 := by
  unfold interruptTransfer
  split
  · rfl
  · rename_i p hp
    have hs := (h p hp).interrupt endpoint
      (v.dataStage (isInEndpoint endpoint) (buffer.truncated maxTransferLength)) s
    dsimp only
    split <;> exact hs

omit h in
theorem peripheral_serve (e : Emulated (σ × τ)) (setup : SetupPacket) (data : Bytes)
    (s : σ × τ) : (e.serve setup data s).1.device.peripheral = e.peripheral := by
  obtain ⟨configuration, interface, h⟩ := e.device_serve setup data s
  rw [h]

end Emulated

namespace Device

variable (host : Host (σ × τ)) {s : σ × τ} {call : DeviceCall} (hcall : call.OfBus)
include hcall

theorem perform_emulated {e : Emulated (σ × τ)} (h : ∀ p ∈ e.peripheral, p.IsApart) :
    ∃ e' s', (emulated e).perform host s call = (emulated e', s') ∧
      (∀ p ∈ e'.peripheral, p.IsApart) ∧ s'.2 = s.2 := by
  cases call with
  | controlTransfer setup buffer v =>
    refine ⟨_, _, rfl, fun p hp => h p ?_, Emulated.snd_serve h setup _ s⟩
    exact (e.peripheral_serve setup _ s).symm.trans hp
  | interruptTransfer endpoint buffer v =>
    exact ⟨_, _, rfl, h, Emulated.snd_interruptTransfer h endpoint buffer v s⟩
  | withState | setInterface => exact hcall.elim
  | _ => exact ⟨_, _, rfl, h, rfl⟩

theorem perform_external {x : External (σ × τ)} (h : x.IsApart) :
    ∃ x' s', (external x).perform host s call = (external x', s') ∧ x'.IsApart ∧ s'.2 = s.2 := by
  cases call with
  | openForUse => exact ⟨_, _, rfl, h, h.opening s⟩
  | controlTransfer setup buffer v => exact ⟨_, _, rfl, h, h.control setup buffer v s⟩
  | interruptTransfer endpoint buffer v => exact ⟨_, _, rfl, h, h.interrupt endpoint buffer v s⟩
  | isochronousTransfer v => exact ⟨_, _, rfl, h, h.isochronous v s⟩
  | setConfiguration => exact ⟨_, _, rfl, ⟨h.opening, h.control, h.interrupt, h.isochronous⟩, rfl⟩
  | withState | setInterface => exact hcall.elim
  | _ => exact ⟨_, _, rfl, h, rfl⟩

end Device

end

/-! ## Devices -/

namespace Device

variable {σ : Type} (host : Host σ) {d : Device (σ × Transcript)} {tr tr' : Transcript}
  {s s' : σ × Transcript}

/-- Whether a transcript bears out what a device knows. One that is made of software knows nothing
of it, and has no part in it. -/
def VouchedBy : Device (σ × Transcript) → Transcript → Prop
  | passthrough p, tr => p.VouchedBy tr
  | emulated e, _ => ∀ p ∈ e.peripheral, p.IsApart
  | external x, _ => x.IsApart

theorem VouchedBy.mono (h : d.VouchedBy tr) (hs : tr <:+ tr') : d.VouchedBy tr' := by
  cases d with
  | passthrough p => exact Passthrough.VouchedBy.mono h hs
  | emulated | external => exact h

/-- Whether a method has left a device and its world so that the transcript was only added to, and
bears out what the device knows. -/
structure Sound (tr : Transcript) (r : Device (σ × Transcript) × σ × Transcript) : Prop where
  added : tr <:+ r.2.2
  vouched : r.1.VouchedBy r.2.2

theorem sound_passthrough {p : Passthrough} (h : Passthrough.Sound s.2 (p, s')) :
    Sound s.2 (passthrough p, s') := ⟨h.added, h.vouched⟩

theorem sound_perform (h : d.VouchedBy s.2) {call : DeviceCall} (hcall : call.OfBus) :
    Sound s.2 (d.perform host.transcribed s call) := by
  have keep {d' : Device (σ × Transcript)} {s' : σ × Transcript} (hd : d'.VouchedBy s.2)
      (hs : s'.2 = s.2) : Sound s.2 (d', s') := by
    constructor
    · exact hs ▸ List.suffix_rfl
    · exact hs ▸ hd
  cases d with
  | passthrough p =>
    cases call with
    | openForUse => exact sound_passthrough (Passthrough.sound_openForUse host h)
    | close => exact sound_passthrough (Passthrough.sound_close host h)
    | readDescriptors => exact sound_passthrough (Passthrough.sound_readDescriptors host h)
    | getConfiguration room => exact keep h (p.transcript_getConfiguration host room s)
    | setConfiguration value => exact sound_passthrough (Passthrough.sound_setConfiguration host h value)
    | setAlternate interface setting =>
      exact keep h (p.transcript_setAlternate host interface setting s)
    | claim interface => exact sound_passthrough (Passthrough.sound_claim host h interface)
    | release interface => exact sound_passthrough (Passthrough.sound_release host h interface)
    | isConnected => exact keep h (p.transcript_isConnected host s)
    | controlTransfer | interruptTransfer | isochronousTransfer => exact keep h rfl
    | withState | setInterface => exact hcall.elim
  | emulated e =>
    obtain ⟨e', s', hperform, hapart, hs⟩ := perform_emulated host.transcribed (s := s) hcall h
    rw [hperform]
    exact keep hapart hs
  | external x =>
    obtain ⟨x', s', hperform, hapart, hs⟩ := perform_external host.transcribed (s := s) hcall h
    rw [hperform]
    exact keep hapart hs

/-- Nothing that ends a device goes into the transcript. -/
theorem transcript_discard (d : Device (σ × Transcript)) (s : σ × Transcript) :
    (d.discard host.transcribed s).2 = s.2 := by
  cases d with
  | passthrough p =>
    show (p.close host.transcribed s).2.2 = s.2
    unfold Passthrough.close
    split
    · rfl
    · exact Passthrough.transcript_releaseAll host _ _ s
  | emulated | external => rfl

end Device

end VirtualUsb
