import VirtualUsb.Proofs.Bus.Departure
import VirtualUsb.Proofs.Bus.Opened
import VirtualUsb.Proofs.Device.Holding

/-!
# Devices and their handles

A device that is open holds the same handle of the host in every call that does not clear its
location (`Bus.bearing?_call`), so it does in a run of such calls
(`Scene.Reached.holds_of_uncleared`). Once a call has cleared the location, the device is not open
and holds no handle until a call opens it again (`Scene.Reached.not_hasOpen_of_cleared`).
-/

namespace VirtualUsb

/-! ## While a device is open -/

/-- Opening a device that is ready already leaves it as it was. -/
theorem Device.bearing_openForUse {σ : Type} (host : Host σ) {d : Device σ} (s : σ)
    (h : d.identity.IsPassthrough → d.hostHandle?.isSome = true) :
    (d.openForUse host s).2.1.bearing = d.bearing := by
  cases d with
  | emulated | external => rfl
  | passthrough p =>
    obtain ⟨handle, hp⟩ := Option.isSome_iff_exists.1 (h trivial)
    change p.handle = some handle at hp
    have hsame : (p.openForUse host s).2.1 = p := by
      unfold Passthrough.openForUse
      rw [hp]
    exact congrArg (fun p => (passthrough p : Device σ).bearing) hsame

namespace Bus

variable {σ : Type} (host : Host σ) {b : Bus σ} (s : σ)

/-- No device that stands on the bus is discarded. -/
theorem get?_reap {a : Attachment} (ha : a ∈ b.attached) (key : DeviceKey) :
    (b.reap host key s).1.roster.get? a.key = b.roster.get? a.key := by
  rcases reap_cases host (b := b) s key with e | ⟨hr, e⟩
  · rw [e]
  · rw [e]
    refine (Roster.get?_retire ..).trans (if_neg fun hk => ?_)
    rw [hk, refersTo_of_attached ha] at hr
    exact nomatch hr

theorem get?_place (h : b.lineup.Coherent) {location : Location} {key : DeviceKey}
    (hkey : ∀ a ∈ b.attached, a.key = key → a.location ≠ location) (placed : DeviceKey) :
    (b.place host placed location s).1.roster.get? key = b.roster.get? key := by
  unfold place
  dsimp only
  split
  · exact get?_disconnectAt host s h hkey true
  · rfl

theorem location_ne_of_opened (h : b.lineup.Coherent) {o : Attachment} (ho : o ∈ b.opened)
    {location : Location} (hne : o.location ≠ location) :
    ∀ a ∈ b.attached, a.key = o.key → a.location ≠ location := by
  intro a ha hk
  rw [h.single a ha o (h.known o ho) hk]
  exact hne

theorem bearing?_openRecord (h : b.lineup.Coherent) {o : Attachment} (ho : o ∈ b.opened)
    (r : DeviceRecord) : (b.openRecord host r s).2.1.lineup.bearing? o.key =
      b.lineup.bearing? o.key := by
  unfold openRecord
  split
  · rfl
  · rename_i a _
    split
    · rfl
    · rename_i d hd
      have hset (d') (hd' : a.key = o.key → d'.bearing = d.bearing) :
          (b.withDevice a.key d').lineup.bearing? o.key = b.lineup.bearing? o.key := by
        rw [lineup_set hd]
        show (if a.key = o.key then some d'.bearing else _) = _
        split
        · rename_i hk
          rw [hd' hk, ← hk]
          exact (congrArg (Option.map Device.bearing) hd).symm
        · rfl
      -- the device that is open is ready, so opening it once more does nothing
      have hready (hk : a.key = o.key) : (d.openForUse host s).2.1.bearing = d.bearing := by
        refine d.bearing_openForUse host s ?_
        obtain ⟨x, hx, hsome⟩ := h.ready o ho
        rw [← hk] at hx
        obtain rfl := Option.some.inj ((congrArg (Option.map Device.bearing) hd).symm.trans hx)
        exact hsome
      generalize d.openForUse host s = opening at hready
      obtain ⟨_ | _, d', s'⟩ := opening
      · exact hset d' hready
      · show ((b.withDevice a.key d').noteOpen a).lineup.bearing? o.key = _
        rw [lineup_noteOpen]
        exact hset d' hready

theorem bearing?_openByIds (h : b.lineup.Coherent) {o : Attachment} (ho : o ∈ b.opened)
    (vendorId productId : UInt16) :
    (b.openByIds host vendorId productId s).2.1.lineup.bearing? o.key =
      b.lineup.bearing? o.key := by
  have hrecast := (recast_enumerate host b s).lineup
  unfold openByIds
  dsimp only
  rw [← hrecast]
  split
  · rfl
  · exact bearing?_openRecord host _ (hrecast.symm ▸ h) (opened_of_lineup_eq hrecast ▸ ho) _

theorem bearing?_of_get? {b b' : Bus σ} {key : DeviceKey}
    (h : b'.roster.get? key = b.roster.get? key) :
    b'.lineup.bearing? key = b.lineup.bearing? key := congrArg (Option.map Device.bearing) h

/-- A device that is open keeps its bearing in every call that does not clear its location. -/
theorem bearing?_call (h : b.lineup.Coherent) {o : Attachment} (ho : o ∈ b.opened)
    {op : Operation σ} (hop : ¬ b.Clears o.location op) :
    (b.call host s op).2.1.lineup.bearing? o.key = b.lineup.bearing? o.key := by
  have hne {location} (hl : location ≠ o.location) := location_ne_of_opened h ho hl.symm
  cases op with
  | attach d =>
    have hnew : b.roster.nextKey ≠ o.key := by
      intro e
      obtain ⟨x, hx, -⟩ := h.ready o ho
      rw [← e, bearing?_nextKey] at hx
      exact nomatch hx
    have hb : Lineup.Coherent (lineup { b with roster := b.roster.enroll d }) := by
      rw [lineup_enroll]
      exact h.enroll d.bearing (bearing?_nextKey b)
    refine bearing?_of_get? ((get?_place host s hb (hne hop) _).trans ?_)
    exact (Roster.get?_enroll ..).trans (if_neg hnew.symm)
  | reattach handle =>
    show (b.reattach host handle s).2.1.lineup.bearing? o.key = _
    unfold reattach
    split
    · rfl
    · rename_i d hd
      exact bearing?_of_get? (get?_place host s h (hne fun e => hop ⟨d, hd, e⟩) _)
  | letGo handle =>
    exact bearing?_of_get? (get?_reap host (b := { b with held := b.held.erase handle.key }) s
      (h.known o ho) handle.key)
  | openRecord record => exact bearing?_openRecord host s h ho record
  | openByIds vendorId productId => exact bearing?_openByIds host s h ho vendorId productId
  | disconnect handle remove =>
    exact bearing?_of_get? (get?_disconnectAt host s h (hne hop) remove)
  | complete x =>
    show (b.complete host x s).1.lineup.bearing? o.key = _
    unfold complete
    split
    · rfl
    · rename_i t ht
      split
      · rename_i hw
        dsimp only
        split
        · rename_i location hstatus howner
          refine bearing?_of_get? (get?_disconnectAt host (b := b.delivered x t) s h (hne ?_) true)
          rintro rfl
          exact hop ⟨hstatus, t, ht, hw, howner⟩
        · rfl
      · rfl
  | clear => exact absurd trivial hop
  | submitControl | submitInterrupt | submitIsochronous =>
    exact congrArg (Lineup.bearing? · o.key) (lineup_of_submits host s rfl)
  | fail id e => exact bearing?_of_get? (congrArg (Roster.get? · o.key) (roster_fail b id e))
  | pump | store => rfl
  | _ => exact congrArg (Lineup.bearing? · o.key) (recast_call host b s (by trivial)).lineup

end Bus

/-! ## Handles -/

namespace Bus

variable {σ : Type} {b b' : Bus σ} {key : DeviceKey} {h : HostHandle}

/-- Which handle a device holds is part of its bearing. -/
theorem holds_iff_bearing? : b.roster.Holds key h ↔
    ∃ x, b.lineup.bearing? key = some x ∧ x.handle = some h := by
  constructor
  · rintro ⟨d, hd, hh⟩
    exact ⟨d.bearing, congrArg (Option.map Device.bearing) hd, hh⟩
  · rintro ⟨x, hx, hh⟩
    obtain ⟨d, hd, rfl⟩ := Option.map_eq_some_iff.1 hx
    exact ⟨d, hd, hh⟩

theorem holds_congr (e : b'.lineup.bearing? key = b.lineup.bearing? key) :
    b'.roster.Holds key h ↔ b.roster.Holds key h := by
  rw [holds_iff_bearing?, holds_iff_bearing?, e]

theorem not_holds_of_closed (hb : b.lineup.Sound) (hclosed : ¬ b.HasOpen key) :
    ¬ b.roster.Holds key h := by
  rintro ⟨d, hd, hh⟩
  refine hclosed (hb.closed key d.bearing (congrArg (Option.map Device.bearing) hd) ?_ ?_)
  · cases d with
    | passthrough => trivial
    | emulated | external => exact nomatch hh
  · exact Option.isSome_iff_exists.2 ⟨h, hh⟩

variable (host : Host σ) (s : σ)

theorem not_opensAt_of_clears {op : Operation σ} {location : Location}
    (hop : b.Clears location op) (o : Attachment) : ¬ (b.call host s op).1.OpensAt o := by
  cases op with
  | attach | reattach | disconnect | complete | clear => exact id
  | _ => exact hop.elim

/-- A device that is not open stays so until a call opens it. -/
theorem not_hasOpen_call (hb : b.lineup.Coherent) {op : Operation σ} (hclosed : ¬ b.HasOpen key)
    (hop : ¬ (b.call host s op).1.Opens key) : ¬ (b.call host s op).2.1.HasOpen key := by
  rintro ⟨o, ho, rfl⟩
  rcases (mem_opened_call host s hb op).1 ho with hopens | ⟨hbefore, -⟩
  · refine hop ?_
    generalize (b.call host s op).1 = answer at hopens
    cases answer with
    | handle r =>
      cases r with
      | error => exact hopens.elim
      | ok handle => exact congrArg Attachment.key hopens
    | _ => exact hopens.elim
  · exact hclosed ⟨o, hbefore, rfl⟩

end Bus

/-! ## Runs -/

namespace Scene

variable {σ : Type} {host : Host σ} {allowed : Scene σ → Operation σ → Prop} {first c : Scene σ}

/-- A device that is open stays open, and holds the handle that it holds, as long as no call clears
its location. -/
theorem Reached.holds_of_uncleared {o : Attachment} {h : HostHandle}
    (hrun : Reached host (fun c op => allowed c op ∧ ¬ c.bus.Clears o.location op) first c)
    (hallowed : ∀ c op, allowed c op → c.bus.AttachesClosed op) (h0 : first.bus.lineup.Sound)
    (ho : o ∈ first.bus.opened) (hh : first.bus.roster.Holds o.key h) :
    o ∈ c.bus.opened ∧ c.bus.roster.Holds o.key h := by
  induction hrun with
  | first => exact ⟨ho, hh⟩
  | @after c op hc hop ih =>
    have hsound := hc.sound h0 fun c op hop => hallowed c op hop.1
    obtain ⟨ho, hh⟩ := ih
    refine ⟨(Bus.mem_opened_call host _ hsound.toCoherent op).2 (.inr ⟨ho, hop.2⟩), ?_⟩
    exact (Bus.holds_congr (Bus.bearing?_call host _ hsound.toCoherent ho hop.2)).2 hh

/-- Once a call has cleared the location of a device, the device is not open until a call opens it
again. -/
theorem Reached.not_hasOpen_of_cleared {c₁ : Scene σ} {op : Operation σ} {o : Attachment}
    (hrun : Reached host allowed first c₁) (hop : allowed c₁ op)
    (hallowed : ∀ c op, allowed c op → c.bus.AttachesClosed op) (h0 : first.bus.lineup.Sound)
    (ho : o ∈ first.bus.attached) (hclears : c₁.bus.Clears o.location op)
    (hsince : Reached host
      (fun c op => allowed c op ∧ ¬ (c.bus.call host c.world op).1.Opens o.key)
      (c₁.after host op) c) : ¬ c.bus.HasOpen o.key := by
  have hsound := hrun.sound h0 hallowed
  induction hsince with
  | first =>
    rintro ⟨a, ha, hkey⟩
    rcases (Bus.mem_opened_call host _ hsound.toCoherent op).1 ha with hopens | ⟨hbefore, hnot⟩
    · exact Bus.not_opensAt_of_clears host _ hclears a hopens
    · refine hnot ?_
      rw [hrun.location_eq hallowed h0 ho (hsound.known a hbefore) hkey]
      exact hclears
  | @after c op' hc hop' ih =>
    have hc' := (hrun.after op hop).trans (hc.mono fun _ _ => And.left)
    exact Bus.not_hasOpen_call host _ (hc'.sound h0 hallowed).toCoherent ih hop'.2

end Scene

end VirtualUsb
