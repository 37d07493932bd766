import VirtualUsb.Proofs.Device.Holding
import VirtualUsb.Proofs.Host.Inventory

/-!
# Devices that are shown

A device that stands for one of the host's asks the host for that one only. So as long as it is one
that is shown (`Device.Within`), the device has nothing to do with what else is plugged in: its
methods come to the same on a host that differs in hidden devices, and keep what such a host keeps
(`Device.kept_perform`).
-/

namespace VirtualUsb

/-! ## Other devices are not noticed -/

namespace Passthrough

variable {σ : Type} {host : Host σ} {i : Inventory σ} {shown : List HostDevice}
  {admitted : HostDevice → Prop} (h : host.Conceals i shown admitted) {p : Passthrough}
  (hp : p.device ∈ shown) (s : σ)

include h hp

theorem openForUse_withInventory :
    p.openForUse (host.withInventory i) s = p.openForUse host s := by
  have hopen : (host.withInventory i).openDevice p.device.id = host.openDevice p.device.id :=
    h.openDevice _ hp
  unfold openForUse
  rw [hopen]
  rfl

theorem readDescriptors_withInventory :
    p.readDescriptors (host.withInventory i) s = p.readDescriptors host s := by
  have hopen : (host.withInventory i).openDevice p.device.id = host.openDevice p.device.id :=
    h.openDevice _ hp
  have hread (handle : HostHandle) (timeout : Nat) (indices : List UInt8) (s : σ) :
      readConfigurations (host.withInventory i) handle timeout indices s =
        readConfigurations host handle timeout indices s := by
    induction indices generalizing s with
    | nil => rfl
    | cons index rest ih =>
      have hone : readConfiguration (host.withInventory i) handle timeout index s =
          readConfiguration host handle timeout index s := rfl
      simp only [readConfigurations, hone, ih]
  unfold readDescriptors
  rw [hopen]
  simp only [hread]
  rfl

theorem discard_withInventory : p.discard (host.withInventory i) s = p.discard host s := by
  have hdevice : (p.close host s).1.device = p.device := congrArg Prod.snd (p.fixed_close host s)
  have hlet : (host.withInventory i).unreference p.device.id = host.unreference p.device.id :=
    h.unreference _ hp
  show (host.withInventory i).unreference (p.close host s).1.device.id (p.close host s).2 =
    host.unreference (p.close host s).1.device.id (p.close host s).2
  rw [hdevice, hlet]

/-- Only a device of the same name could be taken for the one that is looked for. -/
theorem isConnected_withInventory :
    p.isConnected (host.withInventory i) s = p.isConnected host s := by
  have hother : (host.withInventory i).deviceList s = i.deviceList s := rfl
  unfold isConnected
  rw [hother]
  rcases h.deviceList_cases s with ⟨l, l', s', hl, hl', hsame⟩ | ⟨e, s', hl, hl'⟩
  · rw [hl, hl']
    refine congrArg (·, s') (hsame.any_eq fun d hd => ?_).symm
    exact beq_eq_false_iff_ne.2 (hd.2 _ hp).symm
  · rw [hl, hl']

end Passthrough

/-! ## What is kept -/

namespace Passthrough

variable {σ : Type} {host : Host σ} {shown : List HostDevice} {P : σ → Prop}
  (hk : host.Keeps shown P) {p : Passthrough} {s : σ} (hs : P s)

include hk hs

theorem kept_openForUse (hp : p.device ∈ shown) : P (p.openForUse host s).2.2 := by
  unfold openForUse
  split
  · exact hs
  · have hopened := hk.openDevice hs _ hp
    split
    · rename_i he
      rw [he] at hopened
      exact hopened
    · rename_i handle s' he
      rw [he] at hopened
      have hclaimed := hk.claim (hk.autoDetach hopened handle true) handle defaultInterface
      split
      · rename_i hc
        rw [hc] at hclaimed
        exact hk.closeHandle hclaimed handle
      · rename_i hc
        rw [hc] at hclaimed
        exact hclaimed

theorem kept_releaseAll (handle : HostHandle) (l : List UInt8) :
    P (releaseAll host handle l s) := by
  unfold releaseAll
  induction l generalizing s with
  | nil => exact hs
  | cons i l ih => exact ih (hk.release hs handle i)

theorem kept_close : P (p.close host s).2 := by
  unfold close
  split
  · exact hs
  · exact hk.closeHandle (kept_releaseAll hk hs _ _) _

theorem kept_discard (hp : p.device ∈ shown) : P (p.discard host s) := by
  have hdevice : (p.close host s).1.device = p.device := congrArg Prod.snd (p.fixed_close host s)
  rw [← hdevice] at hp
  exact hk.unreference (kept_close hk hs) _ hp

theorem kept_readConfigurations (handle : HostHandle) (timeout : Nat) (indices : List UInt8) :
    P (readConfigurations host handle timeout indices s).2 := by
  have hread (index : UInt8) {s : σ} (hs : P s) :
      P (readConfiguration host handle timeout index s).2 := by
    have hsync := hk.controlSync hs handle
      (StandardRequest.askDescriptor DescriptorKind.configuration index (UInt16.ofNat readSize))
      (List.replicate readSize 0) timeout
    unfold readConfiguration
    dsimp only
    split
    all_goals
      rename_i he
      rw [he] at hsync
      exact hsync
  induction indices generalizing s with
  | nil => exact hs
  | cons index rest ih => exact ih (hread index hs)

theorem kept_readDescriptors (hp : p.device ∈ shown) : P (p.readDescriptors host s).2 := by
  unfold readDescriptors
  split
  · exact hs
  · split
    · exact kept_readConfigurations hk hs _ _ _
    · have hopened := hk.openDevice hs _ hp
      split
      all_goals
        rename_i he
        rw [he] at hopened
      · exact hopened
      · exact hk.closeHandle (kept_readConfigurations hk hopened _ _ _) _

theorem kept_getConfiguration (room : Nat) : P (p.getConfiguration host room s).2 := by
  unfold getConfiguration
  split
  · exact hs
  · exact hs
  · rename_i handle _ _
    have hasked := hk.configuration hs handle
    split
    all_goals
      rename_i he
      rw [he] at hasked
      exact hasked

theorem kept_setConfiguration (value : UInt8) : P (p.setConfiguration host value s).2.2 := by
  have hsnd {α : Type} (r : Except HostError α × σ) : (accepted r).2 = r.2 := by
    obtain ⟨_ | _, s⟩ := r <;> rfl
  unfold setConfiguration
  dsimp only
  split
  · exact hs
  · rename_i handle _
    dsimp only
    rw [hsnd]
    exact hk.setConfiguration hs handle value

theorem kept_setAlternate (interface setting : UInt8) :
    P (p.setAlternate host interface setting s).2 := by
  unfold setAlternate
  split
  · exact hs
  · exact hk.setAlternate hs _ interface setting

theorem kept_claim (interface : UInt8) : P (p.claim host interface s).2.2 := by
  unfold claim
  split
  · exact hs
  · split
    · exact hs
    · rename_i handle _
      have hclaimed := hk.claim hs handle interface
      split
      · exact hs
      · split
        all_goals
          rename_i hc
          rw [hc] at hclaimed
          exact hclaimed

theorem kept_release (interface : UInt8) : P (p.release host interface s).2.2 := by
  unfold release
  split
  · exact hs
  · rename_i handle _
    have hreleased := hk.release hs handle interface
    split
    all_goals
      rename_i hr
      rw [hr] at hreleased
      exact hreleased

theorem kept_isConnected : P (p.isConnected host s).2 := by
  have hlisted := hk.deviceList hs
  unfold isConnected
  split
  all_goals
    rename_i hl
    rw [hl] at hlisted
    exact hlisted

end Passthrough

/-! ## Devices -/

namespace Device

variable {σ : Type} {shown : List HostDevice}

/-- Whether a device stands for none of the host's but one that is shown. -/
def Within (shown : List HostDevice) (d : Device σ) : Prop :=
  ∀ location device, d.identity = .passthrough location device → device ∈ shown

theorem within_of_passthrough {p : Passthrough} (h : (passthrough p : Device σ).Within shown) :
    p.device ∈ shown := h _ _ rfl

theorem within_of_not_isPassthrough {d : Device σ} (h : ¬ d.identity.IsPassthrough) :
    d.Within shown := fun _ _ e => (h (by rw [e]; trivial)).elim

section

variable {host : Host σ} {i : Inventory σ} {admitted : HostDevice → Prop}
  (h : host.Conceals i shown admitted) {d : Device σ} (hd : d.Within shown) (s : σ)

include h hd

theorem openForUse_withInventory :
    d.openForUse (host.withInventory i) s = d.openForUse host s := by
  cases d with
  | passthrough p =>
    unfold openForUse
    dsimp only
    rw [p.openForUse_withInventory h (within_of_passthrough hd) s]
  | emulated | external => rfl

theorem readDescriptors_withInventory :
    d.readDescriptors (host.withInventory i) s = d.readDescriptors host s := by
  cases d with
  | passthrough p =>
    unfold readDescriptors
    dsimp only
    rw [p.readDescriptors_withInventory h (within_of_passthrough hd) s]
  | emulated | external => rfl

theorem discard_withInventory : d.discard (host.withInventory i) s = d.discard host s := by
  cases d with
  | passthrough p => exact p.discard_withInventory h (within_of_passthrough hd) s
  | emulated | external => rfl

theorem isConnected_withInventory :
    d.isConnected (host.withInventory i) s = d.isConnected host s := by
  cases d with
  | passthrough p => exact p.isConnected_withInventory h (within_of_passthrough hd) s
  | emulated | external => rfl

end

variable {τ : Type} {host : Host (σ × τ)} {Q : τ → Prop}
  (hk : host.Keeps shown fun s => Q s.2) {d : Device (σ × τ)} {s : σ × τ} (hs : Q s.2)
  (hd : d.Within shown) (ha : d.IsApart)

include hk hs hd ha

/-- Whatever method of a device is called, what the host keeps is kept, as long as the device does
not meddle with it. -/
theorem kept_perform {call : DeviceCall} (hcall : call.OfBus) :
    (d.perform host s call).1.IsApart ∧ Q (d.perform host s call).2.2 := by
  cases d with
  | passthrough p =>
    have hp := within_of_passthrough hd
    cases call with
    | openForUse => exact ⟨trivial, p.kept_openForUse hk hs hp⟩
    | close => exact ⟨trivial, p.kept_close hk hs⟩
    | readDescriptors => exact ⟨trivial, p.kept_readDescriptors hk hs hp⟩
    | getConfiguration room => exact ⟨trivial, p.kept_getConfiguration hk hs room⟩
    | setConfiguration value => exact ⟨trivial, p.kept_setConfiguration hk hs value⟩
    | setAlternate interface setting => exact ⟨trivial, p.kept_setAlternate hk hs interface setting⟩
    | claim interface => exact ⟨trivial, p.kept_claim hk hs interface⟩
    | release interface => exact ⟨trivial, p.kept_release hk hs interface⟩
    | isConnected => exact ⟨trivial, p.kept_isConnected hk hs⟩
    | controlTransfer | interruptTransfer | isochronousTransfer => exact ⟨trivial, hs⟩
    | withState | setInterface => exact hcall.elim
  | emulated e =>
    obtain ⟨e', s', hperform, hapart, hsame⟩ := perform_emulated host (s := s) hcall ha
    rw [hperform]
    exact ⟨hapart, hsame.symm ▸ hs⟩
  | external x =>
    obtain ⟨x', s', hperform, hapart, hsame⟩ := perform_external host (s := s) hcall ha
    rw [hperform]
    exact ⟨hapart, hsame.symm ▸ hs⟩

omit ha in
theorem kept_discard : Q (d.discard host s).2 := by
  cases d with
  | passthrough p => exact p.kept_discard hk hs (within_of_passthrough hd)
  | emulated | external => exact hs

end Device

end VirtualUsb
