import VirtualUsb.Proofs.Bus.Recast

/-!
# What calls leave alone

A call that serves no transfer leaves the transfers and the guest's memory alone, and the roster
holds no other devices afterwards than before (`Bus.Quiet`, `Bus.quiet_call`).
-/

namespace VirtualUsb

namespace Roster

variable {σ : Type} {r r' r'' : Roster σ}

theorem get?_retire (r : Roster σ) (k key : DeviceKey) :
    (r.retire k).get? key = if k = key then none else r.get? key := by
  obtain ⟨i⟩ := key
  obtain ⟨j⟩ := k
  simp only [get?, retire, Array.getElem?_setIfInBounds, DeviceKey.mk.injEq]
  by_cases h : j = i
  · subst h
    by_cases hj : j < r.entries.size <;> simp [hj]
  · simp [h]

/-- Whether every device of a later roster was on the earlier one, under the same key. -/
def Outlives (r r' : Roster σ) : Prop :=
  ∀ key d', r'.get? key = some d' → ∃ d, r.get? key = some d ∧ d'.identity = d.identity

theorem Outlives.refl (r : Roster σ) : r.Outlives r := fun _ d h => ⟨d, h, rfl⟩

theorem Outlives.trans (h : r.Outlives r') (h' : r'.Outlives r'') : r.Outlives r'' := by
  intro key d'' hd''
  obtain ⟨d', hd', e'⟩ := h' key d'' hd''
  obtain ⟨d, hd, e⟩ := h key d' hd'
  exact ⟨d, hd, e'.trans e⟩

theorem outlives_set {key : DeviceKey} {d d' : Device σ} (hd : r.get? key = some d)
    (e : d'.identity = d.identity) : r.Outlives (r.set key d') := by
  intro k x hx
  rw [get?_set] at hx
  split at hx
  · rename_i h
    rw [← h.1, ← Option.some.inj hx]
    exact ⟨d, hd, e⟩
  · exact ⟨x, hx, rfl⟩

theorem outlives_retire (key : DeviceKey) : r.Outlives (r.retire key) := by
  intro k x hx
  rw [get?_retire] at hx
  split at hx
  · exact nomatch hx
  · exact ⟨x, hx, rfl⟩

end Roster

namespace Bus

variable {σ : Type} (host : Host σ)

/-- Whether a bus has changed in nothing that transfers have to do with, and got no new device. -/
structure Quiet (b b' : Bus σ) : Prop where
  ledger : b'.ledger = b.ledger
  roster : b.roster.Outlives b'.roster

theorem Quiet.refl (b : Bus σ) : b.Quiet b := ⟨rfl, .refl _⟩

theorem Quiet.trans {b b' b'' : Bus σ} (h : b.Quiet b') (h' : b'.Quiet b'') : b.Quiet b'' :=
  ⟨h'.ledger.trans h.ledger, h.roster.trans h'.roster⟩

theorem Quiet.pool {b b' : Bus σ} (h : b.Quiet b') : b'.pool = b.pool :=
  congrArg Ledger.pool h.ledger

theorem Quiet.agenda {b b' : Bus σ} (h : b.Quiet b') : b'.agenda = b.agenda :=
  congrArg Ledger.agenda h.ledger

/-- Lists, counters and handles are no matter of the transfers. -/
theorem quiet_of_eq {b b' : Bus σ} (hl : b'.ledger = b.ledger) (hr : b'.roster = b.roster) :
    b.Quiet b' := ⟨hl, hr ▸ .refl _⟩

theorem quiet_withDevice {b : Bus σ} {key : DeviceKey} {d d' : Device σ}
    (hd : b.roster.get? key = some d) (e : d'.identity = d.identity) :
    b.Quiet (b.withDevice key d') := ⟨rfl, Roster.outlives_set hd e⟩

theorem Recast.quiet {b b' : Bus σ} (h : b.Recast b') : b.Quiet b' := by
  refine ⟨h.ledger, fun key d' hd' => ?_⟩
  have e : (b'.roster.get? key).map Device.bearing = (b.roster.get? key).map Device.bearing :=
    congrFun (congrArg Lineup.bearing? h.lineup) key
  rw [hd'] at e
  obtain ⟨d, hd, e⟩ := Option.map_eq_some_iff.1 e.symm
  exact ⟨d, hd, (congrArg Bearing.identity e).symm⟩

variable (b : Bus σ) (s : σ)

/-! ## Attaching and detaching -/

theorem quiet_reap (key : DeviceKey) : b.Quiet (b.reap host key s).1 := by
  unfold reap
  split
  · exact .refl b
  · split
    · exact .refl b
    · exact ⟨rfl, Roster.outlives_retire key⟩

theorem quiet_closeDevice (key : DeviceKey) : b.Quiet (b.closeDevice host key s).1 := by
  unfold closeDevice
  split
  · exact .refl b
  · rename_i d hd
    exact quiet_withDevice hd (d.identity_close host s)

theorem quiet_closeAt (location : Location) : b.Quiet (b.closeAt host location s).1 := by
  unfold closeAt
  split
  · exact .refl b
  · refine (quiet_of_eq ?_ ?_).trans ((quiet_closeDevice host _ s _).trans
      (quiet_reap host _ _ _)) <;> rfl

theorem quiet_removeAt (location : Location) : b.Quiet (b.removeAt host location s).1 := by
  unfold removeAt
  split
  · exact .refl b
  · refine (quiet_of_eq ?_ ?_).trans (quiet_reap host _ s _) <;> rfl

theorem quiet_disconnectAt (location : Location) (remove : Bool) :
    b.Quiet (b.disconnectAt host location remove s).1 := by
  unfold disconnectAt
  dsimp only
  split
  · exact (quiet_closeAt host b s location).trans (quiet_removeAt host _ _ location)
  · exact quiet_closeAt host b s location

theorem quiet_place (key : DeviceKey) (location : Location) :
    b.Quiet (b.place host key location s).1 := by
  unfold place
  dsimp only
  split
  · exact (quiet_disconnectAt host b s location true).trans (quiet_of_eq rfl rfl)
  · exact quiet_of_eq rfl rfl

theorem quiet_reattach (h : Handle) : b.Quiet (b.reattach host h s).2.1 := by
  unfold reattach
  split
  · exact .refl b
  · exact quiet_place host b s _ _

theorem quiet_letGo (h : Handle) : b.Quiet (b.letGo host h s).1 := by
  unfold letGo
  refine (quiet_of_eq ?_ ?_).trans (quiet_reap host _ s h.key) <;> rfl

theorem quiet_foldl {f : Bus σ × σ → Attachment → Bus σ × σ}
    (hf : ∀ p a, Quiet p.1 (f p a).1) (l : List Attachment) (p : Bus σ × σ) :
    Quiet p.1 (l.foldl f p).1 := by
  induction l generalizing p with
  | nil => exact .refl _
  | cons a l ih => exact (hf p a).trans (ih _)

theorem quiet_clear : b.Quiet (b.clear host s).1 := by
  unfold clear
  exact (quiet_foldl (fun p a => quiet_closeAt host p.1 p.2 a.location) b.opened (b, s)).trans
    (quiet_foldl (fun p a => quiet_removeAt host p.1 p.2 a.location) b.attached _)

/-! ## Enumerating and opening -/

theorem quiet_enumerate : b.Quiet (b.enumerate host s).2.1 := (recast_enumerate host b s).quiet

theorem quiet_noteOpen (a : Attachment) : b.Quiet (b.noteOpen a) := by
  unfold noteOpen
  split
  · exact .refl b
  · exact quiet_of_eq rfl rfl

theorem quiet_openRecord (r : DeviceRecord) : b.Quiet (b.openRecord host r s).2.1 := by
  unfold openRecord
  split
  · exact .refl b
  · split
    · exact .refl b
    · rename_i a _ _ d hd
      have he := d.identity_openForUse host s
      generalize d.openForUse host s = o at he
      obtain ⟨_ | _, d', s'⟩ := o
      · exact quiet_withDevice hd he
      · refine (quiet_withDevice hd he).trans ((quiet_noteOpen _ a).trans
          (quiet_of_eq ?_ ?_)) <;> rfl

theorem quiet_openByIds (vendorId productId : UInt16) :
    b.Quiet (b.openByIds host vendorId productId s).2.1 := by
  unfold openByIds
  dsimp only
  split
  · exact quiet_enumerate host b s
  · exact (quiet_enumerate host b s).trans (quiet_openRecord host _ _ _)

/-! ## Calls -/

theorem quiet_attach (d : Device σ) :
    Quiet { b with roster := b.roster.enroll d } (b.attach host d s).2.1 :=
  quiet_place host { b with roster := b.roster.enroll d } s _ _

end Bus

/-- Whether a call brings no device, serves no transfer and ends none. -/
def Operation.IsQuiet {σ : Type} : Operation σ → Prop
  | .attach _ | .submitControl .. | .submitInterrupt .. | .submitIsochronous .. => False
  | .complete _ | .fail .. | .pump _ | .store .. => False
  | _ => True

namespace Bus

variable {σ : Type} (host : Host σ) (b : Bus σ) (s : σ)

theorem quiet_call {op : Operation σ} (h : op.IsQuiet) : b.Quiet (b.call host s op).2.1 := by
  cases op with
  | reattach => exact quiet_reattach host b s _
  | letGo => exact quiet_letGo host b s _
  | openRecord => exact quiet_openRecord host b s _
  | openByIds => exact quiet_openByIds host b s _ _
  | disconnect => exact quiet_disconnectAt host b s _ _
  | clear => exact quiet_clear host b s
  | attach | submitControl | submitInterrupt | submitIsochronous => exact h.elim
  | complete | fail | pump | store => exact h.elim
  | _ => exact Recast.quiet (recast_call host b s (by trivial))

end Bus

end VirtualUsb
