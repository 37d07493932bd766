import VirtualUsb.Proofs.Bus.Places
import VirtualUsb.Proofs.Device.Shown

/-!
# A bus with devices that are shown

A bus comes to its host by its devices alone. If they stand for none of the host's but some that are
shown (`Roster.Within`), no call can tell whether the host has hidden devices besides
(`Bus.call_withInventory`), and every call keeps what a host keeps that is asked for no others
(`Bus.guarded_call`).
-/

namespace VirtualUsb

/-! ## Rosters -/

namespace Roster

variable {shown : List HostDevice}

/-- Whether all devices of a roster stand for none of the host's but some that are shown. -/
def Within {σ : Type} (shown : List HostDevice) (r : Roster σ) : Prop :=
  ∀ key d, r.get? key = some d → d.Within shown

/-- No move brings in a device for one of the host's, unless it comes with the call. -/
theorem Within.move {σ : Type} {host : Host σ} {op : Operation σ} {x y : Roster σ × σ}
    (h : x.1.Within shown) (hm : Move host op x y) (hop : ∀ d, op = .attach d → d.Within shown) :
    y.1.Within shown := by
  intro key d hd
  rcases hm.origin hd with hd₀ | ⟨d₀, call, hd₀, hcall, e⟩ | ⟨-, hattach⟩
  · exact h key d hd₀
  · have hsame := d₀.identity_perform host x.2 hcall.ofBus
    rw [e] at hsame
    intro location device he
    exact h key d₀ hd₀ location device (hsame.symm.trans he)
  · exact hop d hattach

/-- Whether the devices of a roster are among those that are shown and know nothing of what the
world keeps besides their own part, of which something holds. -/
structure Guarded {σ τ : Type} (shown : List HostDevice) (Q : τ → Prop)
    (x : Roster (σ × τ) × σ × τ) : Prop where
  within : x.1.Within shown
  apart : ∀ key d, x.1.get? key = some d → d.IsApart
  kept : Q x.2.2

theorem Guarded.move {σ τ : Type} {host : Host (σ × τ)} {Q : τ → Prop}
    (hk : host.Keeps shown fun s => Q s.2) {op : Operation (σ × τ)} {x y : Roster (σ × τ) × σ × τ}
    (h : Guarded shown Q x) (hm : Move host op x y)
    (hop : ∀ d, op = .attach d → d.Within shown ∧ d.IsApart) : Guarded shown Q y := by
  refine ⟨h.within.move hm fun d e => (hop d e).1, fun key d hd => ?_, ?_⟩
  · rcases hm.origin hd with hd₀ | ⟨d₀, call, hd₀, hcall, e⟩ | ⟨-, hattach⟩
    · exact h.apart key d hd₀
    · have hapart := Device.kept_perform hk h.kept (h.within key d₀ hd₀) (h.apart key d₀ hd₀)
        hcall.ofBus
      rw [e] at hapart
      exact hapart.1
    · exact (hop d hattach).2
  · cases hm with
    | perform call hcall hd =>
      exact (Device.kept_perform hk h.kept (h.within _ _ hd) (h.apart _ _ hd) hcall.ofBus).2
    | discard hd => exact Device.kept_discard hk h.kept (h.within _ _ hd)
    | enroll => exact h.kept

end Roster

/-! ## Calls -/

namespace Bus

variable {σ : Type} {host : Host σ} {i : Inventory σ} {shown : List HostDevice}
  {admitted : HostDevice → Prop}

theorem within_of_moves {x y : Bus σ × σ} (hm : Moves host .clear x y)
    (h : x.1.roster.Within shown) : y.1.roster.Within shown := by
  refine hm.keep (P := fun x => x.1.Within shown) (fun _ _ hm h => h.move hm ?_) h
  intro d e
  exact nomatch e

theorem within_enroll {r : Roster σ} {d : Device σ} (h : r.Within shown) (hd : d.Within shown) :
    (r.enroll d).Within shown := by
  intro key d' hd'
  rw [Roster.get?_enroll] at hd'
  split at hd'
  · obtain rfl := Option.some.inj hd'
    exact hd
  · exact h key d' hd'

variable (h : host.Conceals i shown admitted) {b : Bus σ} (hb : b.roster.Within shown) (s : σ)

include h hb

/-! ### Attaching and detaching -/

theorem reap_withInventory (key : DeviceKey) :
    b.reap (host.withInventory i) key s = b.reap host key s := by
  unfold reap
  split
  · rfl
  · split
    · rfl
    · rename_i d hd
      rw [d.discard_withInventory h (hb key d hd)]

theorem closeAt_withInventory (location : Location) :
    b.closeAt (host.withInventory i) location s = b.closeAt host location s := by
  unfold closeAt
  split
  · rfl
  · rename_i a _
    let off : Bus σ := { b with opened := withoutLocation b.opened location }
    have hclosed : (off.closeDevice host a.key s).1.roster.Within shown :=
      within_of_moves (moves_closeDevice off s a.key) hb
    exact reap_withInventory h hclosed _ a.key

theorem removeAt_withInventory (location : Location) :
    b.removeAt (host.withInventory i) location s = b.removeAt host location s := by
  unfold removeAt
  split
  · rfl
  · rename_i a _
    let off : Bus σ := { b with attached := withoutLocation b.attached location }
    exact reap_withInventory h (b := off) hb s a.key

theorem disconnectAt_withInventory (location : Location) (remove : Bool) :
    b.disconnectAt (host.withInventory i) location remove s =
      b.disconnectAt host location remove s := by
  have hclosed : (b.closeAt host location s).1.roster.Within shown :=
    within_of_moves (moves_closeAt b s location) hb
  unfold disconnectAt
  rw [closeAt_withInventory h hb]
  dsimp only
  rw [removeAt_withInventory h hclosed]

theorem place_withInventory (key : DeviceKey) (location : Location) :
    b.place (host.withInventory i) key location s = b.place host key location s := by
  unfold place
  rw [disconnectAt_withInventory h hb]

theorem attach_withInventory {d : Device σ} (hd : d.Within shown) :
    b.attach (host.withInventory i) d s = b.attach host d s := by
  unfold attach
  rw [place_withInventory h (within_enroll hb hd)]

theorem reattach_withInventory (handle : Handle) :
    b.reattach (host.withInventory i) handle s = b.reattach host handle s := by
  unfold reattach
  split
  · rfl
  · rw [place_withInventory h hb]

theorem letGo_withInventory (handle : Handle) :
    b.letGo (host.withInventory i) handle s = b.letGo host handle s := by
  let off : Bus σ := { b with held := b.held.erase handle.key }
  exact reap_withInventory h (b := off) hb s handle.key

omit h hb in
/-- Two ways to go through attachments come to the same if each step of them does. -/
theorem foldl_eq_of_within (host : Host σ) {f g : Bus σ × σ → Attachment → Bus σ × σ}
    (hfg : ∀ x a, x.1.roster.Within shown → f x a = g x a)
    (hm : ∀ x a, Moves host .clear x (g x a)) (l : List Attachment) {x : Bus σ × σ}
    (hx : x.1.roster.Within shown) :
    l.foldl f x = l.foldl g x ∧ (l.foldl g x).1.roster.Within shown := by
  induction l generalizing x with
  | nil => exact ⟨rfl, hx⟩
  | cons a l ih =>
    rw [List.foldl_cons, List.foldl_cons, hfg x a hx]
    exact ih (within_of_moves (hm x a) hx)

theorem clear_withInventory : b.clear (host.withInventory i) s = b.clear host s := by
  obtain ⟨hclosed, hwithin⟩ := foldl_eq_of_within host (x := (b, s))
    (fun x a hx => closeAt_withInventory h hx x.2 a.location)
    (fun x a => moves_closeAt x.1 x.2 a.location) b.opened hb
  obtain ⟨hremoved, -⟩ := foldl_eq_of_within host
    (fun x a hx => removeAt_withInventory h hx x.2 a.location)
    (fun x a => moves_removeAt x.1 x.2 a.location) b.attached hwithin
  unfold clear
  dsimp only
  rw [hclosed]
  exact hremoved

/-! ### Enumerating and opening -/

theorem describeDevice_withInventory (key : DeviceKey) :
    b.describeDevice (host.withInventory i) key s = b.describeDevice host key s := by
  unfold describeDevice
  split
  · rfl
  · rename_i d hd
    rw [d.readDescriptors_withInventory h (hb key d hd)]

theorem enumerateFrom_withInventory (n : Nat) (l : List Attachment) :
    enumerateFrom (host.withInventory i) n l b s = enumerateFrom host n l b s := by
  induction l generalizing n b s with
  | nil => rfl
  | cons a l ih =>
    let next : Bus σ := { b with nextSession := b.nextSession + 1 }
    have hdescribed : (next.describeDevice host a.key s).2.1.roster.Within shown :=
      within_of_moves (moves_describeDevice next s a.key) hb
    have hsame : next.describeDevice (host.withInventory i) a.key s =
        next.describeDevice host a.key s := describeDevice_withInventory h (b := next) hb s a.key
    rw [enumerateFrom, enumerateFrom]
    dsimp only
    rw [hsame, ih hdescribed]

theorem enumerate_withInventory :
    b.enumerate (host.withInventory i) s = b.enumerate host s := by
  unfold enumerate
  rw [enumerateFrom_withInventory h hb]

theorem openRecord_withInventory (r : DeviceRecord) :
    b.openRecord (host.withInventory i) r s = b.openRecord host r s := by
  unfold openRecord
  split
  · rfl
  · split
    · rfl
    · rename_i a _ _ d hd
      rw [d.openForUse_withInventory h (hb a.key d hd)]

theorem openByIds_withInventory (vendorId productId : UInt16) :
    b.openByIds (host.withInventory i) vendorId productId s =
      b.openByIds host vendorId productId s := by
  have henumerated : (b.enumerate host s).2.1.roster.Within shown :=
    within_of_moves (moves_enumerate b s) hb
  unfold openByIds
  rw [enumerate_withInventory h hb]
  dsimp only
  split
  · rfl
  · exact openRecord_withInventory h henumerated _ _

/-! ### Requests -/

theorem checkConnected_withInventory (handle : Handle) :
    b.checkConnected (host.withInventory i) handle s = b.checkConnected host handle s := by
  unfold checkConnected
  split
  · rfl
  · rename_i key d hd
    rw [d.isConnected_withInventory h (hb key d (roster_of_knownDevice hd))]

theorem claim_withInventory (handle : Handle) (interface : UInt8) :
    b.claim (host.withInventory i) handle interface s = b.claim host handle interface s := by
  unfold claim
  split
  · rfl
  · rename_i key d hd
    rw [d.readDescriptors_withInventory h (hb key d (roster_of_openedDevice hd))]
    rfl

theorem readAt_withInventory (location : Location) :
    b.readAt (host.withInventory i) location s = b.readAt host location s := by
  unfold readAt
  split
  · rfl
  · rename_i key d hd
    rw [d.readDescriptors_withInventory h (hb key d (roster_of_knownDevice hd))]

/-! ### All calls -/

theorem complete_withInventory (c : Completion) :
    b.complete (host.withInventory i) c s = b.complete host c s := by
  unfold complete
  split
  · rfl
  · rename_i t _
    split
    · dsimp only
      split
      · exact disconnectAt_withInventory h (b := b.delivered c t) hb s _ true
      · rfl
    · rfl

theorem call_withInventory {op : Operation σ} (hop : ∀ d, op = .attach d → d.Within shown) :
    b.call (host.withInventory i) s op = b.call host s op := by
  unfold call
  cases op with
  | attach d =>
    dsimp only
    rw [attach_withInventory h hb s (hop d rfl)]
  | reattach handle =>
    dsimp only
    rw [reattach_withInventory h hb]
  | letGo handle =>
    dsimp only
    rw [letGo_withInventory h hb]
  | enumerate =>
    dsimp only
    rw [enumerate_withInventory h hb]
  | openRecord r =>
    dsimp only
    rw [openRecord_withInventory h hb]
  | openByIds vendorId productId =>
    dsimp only
    rw [openByIds_withInventory h hb]
  | disconnect handle remove =>
    exact congrArg (Prod.mk _) (disconnectAt_withInventory h hb s handle.location remove)
  | checkConnected handle =>
    dsimp only
    rw [checkConnected_withInventory h hb]
  | claim handle interface =>
    dsimp only
    rw [claim_withInventory h hb]
  | configDescriptor location index =>
    unfold configDescriptor
    dsimp only
    rw [readAt_withInventory h hb]
  | maxPacketSize location endpoint =>
    unfold maxPacketSize
    dsimp only
    rw [readAt_withInventory h hb]
  | complete c =>
    dsimp only
    rw [complete_withInventory h hb]
  | clear =>
    dsimp only
    rw [clear_withInventory h hb]
  | release | getConfiguration | setConfiguration | setAlternate => rfl
  | submitControl | submitInterrupt | submitIsochronous => rfl
  | newLocation | fail | pump | store | elapse => rfl

omit h hb in
/-- What a host keeps is kept by every call, and so is that devices are shown and do not meddle. -/
theorem guarded_call {τ : Type} {host : Host (σ × τ)} {Q : τ → Prop}
    (hk : host.Keeps shown fun s => Q s.2) {b : Bus (σ × τ)} {s : σ × τ}
    (hb : Roster.Guarded shown Q (b.roster, s)) (op : Operation (σ × τ))
    (hop : ∀ d, op = .attach d → d.Within shown ∧ d.IsApart)
    (helapse : ∀ world, op ≠ .elapse world) :
    Roster.Guarded shown Q ((b.call host s op).2.1.roster, (b.call host s op).2.2) :=
  (moves_call b s helapse).keep (fun _ _ hm h => h.move hk hm hop) hb

end Bus

end VirtualUsb
