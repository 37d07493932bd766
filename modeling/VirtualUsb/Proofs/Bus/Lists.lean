import VirtualUsb.Proofs.Bus.Lineup

/-!
# What calls do to the lists of devices

The lineup of a bus is sound after every call, if it was before and devices come to the bus without
a host handle (`Bus.sound_call`). So a passthrough device that can be reached by a transfer always
holds a host handle, and none of its transfers ends for want of one (`Scene.lists_of_reached`).
-/

namespace VirtualUsb

namespace Bus

variable {σ : Type} (host : Host σ) {b : Bus σ} (s : σ) {P : Lineup → Prop}

theorem lineup_empty (n : Nat) (latency : UInt64) (memory : Memory) :
    (empty n latency memory : Bus σ).lineup.Sound :=
  ⟨⟨.nil, .nil, nofun, nofun, nofun⟩, nofun, nofun⟩

/-! ## Submitting -/

theorem lineup_dispatch {serve : Device σ → Service → σ → Device σ × Service × σ}
    (hserve : ∀ d v s, (serve d v s).1.bearing = d.bearing) (h : Handle) (now : UInt64)
    (iso : IsoRequest) : (b.dispatch h now iso serve s).2.1.lineup = b.lineup := by
  unfold dispatch
  split
  · rfl
  · rename_i key d hd
    split
    · rfl
    · exact (recast_withDevice (roster_of_openedDevice hd) (hserve d _ s)).lineup

/-- A submission changes neither list, and the bearing of no device. -/
theorem lineup_of_submits {op : Operation σ} (h : op.submits.isSome = true) :
    (b.call host s op).2.1.lineup = b.lineup := by
  cases op with
  | submitControl handle setup buffer now =>
    exact lineup_dispatch s (fun d v s => d.bearing_controlTransfer s setup buffer v) handle now {}
  | submitInterrupt handle endpoint buffer now =>
    exact lineup_dispatch s (fun d v s => d.bearing_interruptTransfer s endpoint buffer v) handle
      now {}
  | submitIsochronous handle request now =>
    show (b.submitIsochronous handle request now s).2.1.lineup = b.lineup
    unfold submitIsochronous
    split
    · rfl
    · exact lineup_dispatch s (fun d v s => d.bearing_isochronousTransfer s v) handle now request
  | _ => exact nomatch h

/-! ## Closing and removing -/

theorem reap_cases (key : DeviceKey) :
    (b.reap host key s).1 = b ∨
      b.refersTo key = false ∧
        (b.reap host key s).1 = { b with roster := b.roster.retire key } := by
  unfold reap
  split
  · exact .inl rfl
  · rename_i hr
    split
    · exact .inl rfl
    · exact .inr ⟨Bool.eq_false_iff.2 hr, rfl⟩

theorem reap_of_refersTo {key : DeviceKey} (h : b.refersTo key = true) :
    b.reap host key s = (b, s) := if_pos h

theorem refersTo_of_attached {a : Attachment} (ha : a ∈ b.attached) : b.refersTo a.key = true := by
  have : b.attached.any (·.key == a.key) = true :=
    List.any_eq_true.2 ⟨a, ha, beq_self_eq_true a.key⟩
  unfold refersTo
  rw [this, Bool.true_or, Bool.true_or]

theorem refersTo_of_held {key : DeviceKey} (h : key ∈ b.held) : b.refersTo key = true := by
  unfold refersTo
  rw [List.contains_iff_mem.2 h, Bool.or_true]

theorem lineup_retire (key : DeviceKey) :
    lineup { b with roster := b.roster.retire key } = b.lineup.update key none := by
  unfold lineup Lineup.update
  congr
  funext k
  dsimp only
  rw [Roster.get?_retire]
  split <;> rfl

theorem kept_reap (hP : Lineup.Kept P) (h : P b.lineup) (key : DeviceKey) :
    P (b.reap host key s).1.lineup := by
  rcases reap_cases host (b := b) s key with e | ⟨hr, e⟩
  · rwa [e]
  · rw [e, lineup_retire]
    refine hP.retire h fun a ha hk => ?_
    rw [← hk, refersTo_of_attached ha] at hr
    exact nomatch hr

theorem closeAt_of_free {location : Location} (hfree : ∀ o ∈ b.opened, o.location ≠ location) :
    b.closeAt host location s = (b, s) := by
  unfold closeAt
  cases hat : attachmentAt b.opened location with
  | none => rfl
  | some a =>
    obtain ⟨ha, hl⟩ := mem_of_attachmentAt hat
    exact absurd hl (hfree a ha)

/-- Closing takes an open device off the list of open devices, and it stays on the bus. -/
theorem closeAt_of_mem (h : b.lineup.Coherent) {a : Attachment} (ha : a ∈ b.opened) :
    ∃ d, b.roster.get? a.key = some d ∧ b.closeAt host a.location s =
      ({ b with
          opened := withoutLocation b.opened a.location
          roster := b.roster.set a.key (d.close host s).1 }, (d.close host s).2) := by
  obtain ⟨x, hx, -⟩ := h.ready a ha
  obtain ⟨d, hd, -⟩ := Option.map_eq_some_iff.1 hx
  have hat : attachmentAt b.opened a.location = some a :=
    (attachmentAt_eq_some_iff h.opened).2 ⟨ha, rfl⟩
  refine ⟨d, hd, ?_⟩
  unfold closeAt closeDevice
  rw [hat]
  dsimp only
  rw [hd]
  exact reap_of_refersTo host _ (refersTo_of_attached (h.known a ha))

/-- Closing at a location leaves a bus alone where no device is open. It takes the one that is off
the list of open devices, and it stays on the bus. -/
theorem closeAt_cases (h : b.lineup.Coherent) (location : Location) :
    ((∀ o ∈ b.opened, o.location ≠ location) ∧ (b.closeAt host location s).1 = b) ∨
      ∃ a ∈ b.opened, a.location = location ∧ ∃ d, b.roster.get? a.key = some d ∧
        (b.closeAt host location s).1 =
          { b with
            opened := withoutLocation b.opened location
            roster := b.roster.set a.key (d.close host s).1 } := by
  cases hat : attachmentAt b.opened location with
  | none =>
    have hfree := ne_of_attachmentAt_eq_none hat
    exact .inl ⟨hfree, congrArg Prod.fst (closeAt_of_free host s hfree)⟩
  | some a =>
    obtain ⟨ha, rfl⟩ := mem_of_attachmentAt hat
    obtain ⟨d, hd, e⟩ := closeAt_of_mem host s h ha
    exact .inr ⟨a, ha, rfl, d, hd, congrArg Prod.fst e⟩

theorem kept_closeAt (hP : Lineup.Kept P) (h : P b.lineup) (location : Location) :
    P (b.closeAt host location s).1.lineup := by
  rcases closeAt_cases host s (hP.coherent h) location with ⟨-, e⟩ | ⟨a, hmem, rfl, d, hd, e⟩
  · rwa [e]
  · rw [e]
    show P ⟨b.attached, _, (b.withDevice a.key (d.close host s).1).lineup.bearing?⟩
    rw [lineup_set hd, d.bearing_close]
    exact hP.close h hmem (congrArg (Option.map Device.bearing) hd)

theorem coherent_closeAt (h : b.lineup.Coherent) (location : Location) :
    (b.closeAt host location s).1.lineup.Coherent :=
  kept_closeAt host s Lineup.kept_coherent h location

theorem mem_opened_closeAt (h : b.lineup.Coherent) {location : Location} {o : Attachment} :
    o ∈ (b.closeAt host location s).1.opened ↔ o ∈ b.opened ∧ o.location ≠ location := by
  rcases closeAt_cases host s h location with ⟨hne, e⟩ | ⟨a, -, -, d, -, e⟩
  · rw [e]
    exact ⟨fun ho => ⟨ho, hne o ho⟩, And.left⟩
  · rw [e]
    exact mem_withoutLocation h.opened

theorem attached_closeAt (h : b.lineup.Coherent) (location : Location) :
    (b.closeAt host location s).1.attached = b.attached ∧
      (b.closeAt host location s).1.held = b.held := by
  rcases closeAt_cases host s h location with ⟨-, e⟩ | ⟨a, -, -, d, -, e⟩
  all_goals
    rw [e]
    exact ⟨rfl, rfl⟩

theorem removeAt_lists (h : b.lineup.Coherent) (location : Location) :
    (b.removeAt host location s).1.opened = b.opened ∧
      ∀ a, a ∈ (b.removeAt host location s).1.attached ↔
        a ∈ b.attached ∧ a.location ≠ location := by
  unfold removeAt
  split
  · rename_i ha
    exact ⟨rfl, fun a => ⟨fun hm => ⟨hm, ne_of_attachmentAt_eq_none ha a hm⟩, And.left⟩⟩
  · rename_i a _
    rcases reap_cases host (b := { b with attached := withoutLocation b.attached location }) s a.key
      with e | ⟨-, e⟩
    all_goals
      rw [e]
      exact ⟨rfl, fun a => mem_withoutLocation h.attached⟩

/-- The device at a location may be removed if it is not open. -/
theorem kept_removeAt (hP : Lineup.Kept P) (h : P b.lineup) {location : Location}
    (hopen : ∀ o ∈ b.opened, o.location ≠ location) : P (b.removeAt host location s).1.lineup := by
  unfold removeAt
  split
  · exact h
  · exact kept_reap host (b := { b with attached := withoutLocation b.attached location }) s hP
      (hP.remove h hopen) _

theorem kept_disconnectAt (hP : Lineup.Kept P) (h : P b.lineup) (location : Location)
    (remove : Bool) : P (b.disconnectAt host location remove s).1.lineup := by
  unfold disconnectAt
  dsimp only
  split
  · exact kept_removeAt host _ hP (kept_closeAt host s hP h location)
      fun o ho => ((mem_opened_closeAt host s (hP.coherent h)).1 ho).2
  · exact kept_closeAt host s hP h location

theorem mem_attached_disconnectAt (h : b.lineup.Coherent) {location : Location} {a : Attachment} :
    a ∈ (b.disconnectAt host location true s).1.attached ↔
      a ∈ b.attached ∧ a.location ≠ location := by
  rw [← (attached_closeAt host s h location).1]
  exact (removeAt_lists host _ (coherent_closeAt host s h location) location).2 a

/-- What the roster says a device is. -/
def identity? (b : Bus σ) (key : DeviceKey) : Option DeviceIdentity :=
  (b.roster.get? key).map Device.identity

theorem identity?_closeAt (h : b.lineup.Coherent) (location : Location) :
    (b.closeAt host location s).1.identity? = b.identity? := by
  rcases closeAt_cases host s h location with ⟨-, e⟩ | ⟨a, -, -, d, hd, e⟩
  · rw [e]
  · rw [e]
    funext key
    unfold identity?
    dsimp only
    rw [Roster.get?_set_of_get? hd]
    split
    · rename_i hk
      rw [← hk, hd, Option.map_some, Option.map_some, d.identity_close]
    · rfl

/-- A device to which a handle refers, or that is not on the bus yet, stays when others leave. -/
theorem identity?_disconnectAt (h : b.lineup.Coherent) {key : DeviceKey}
    (hkey : key ∈ b.held ∨ ∀ a ∈ b.attached, a.key ≠ key) (location : Location) :
    (b.disconnectAt host location true s).1.identity? key = b.identity? key := by
  rw [← identity?_closeAt host s h location]
  obtain ⟨hattached, hheld⟩ := attached_closeAt host s h location
  rw [← hattached, ← hheld] at hkey
  unfold disconnectAt
  dsimp only
  rw [if_pos rfl]
  generalize b.closeAt host location s = r at hkey
  unfold removeAt
  split
  · rfl
  · rename_i a ha
    rcases reap_cases host (b := { r.1 with attached := withoutLocation r.1.attached location })
      r.2 a.key with e | ⟨hr, e⟩
    · rw [e]
      rfl
    · have hne : a.key ≠ key := by
        rintro rfl
        rcases hkey with hheld | hnew
        · exact nomatch hr.symm.trans (refersTo_of_held hheld)
        · exact hnew a (mem_of_attachmentAt ha).1 rfl
      rw [e]
      unfold identity?
      dsimp only
      rw [Roster.get?_retire, if_neg hne]

/-! ## Placing -/

theorem sound_place (h : b.lineup.Sound) {key : DeviceKey} {location : Location}
    (hkey : key ∈ b.held ∨ ∀ a ∈ b.attached, a.key ≠ key) {i : DeviceIdentity}
    (hi : b.identity? key = some i) (hl : i.location = location) :
    (b.place host key location s).1.lineup.Sound := by
  have hplace {b : Bus σ} (h : b.lineup.Sound) (hfree : ∀ a ∈ b.attached, a.location ≠ location)
      (hi : b.identity? key = some i) :
      Lineup.Sound { b.lineup with attached := b.attached ++ [⟨location, key⟩] } := by
    obtain ⟨d, hd, rfl⟩ := Option.map_eq_some_iff.1 hi
    exact h.place hfree (congrArg (Option.map Device.bearing) hd) hl
  unfold place
  dsimp only
  split
  · refine hplace (kept_disconnectAt host s Lineup.kept_sound h location true) (fun a ha => ?_) ?_
    · exact ((mem_attached_disconnectAt host s h.toCoherent).1 ha).2
    · rwa [identity?_disconnectAt host s h.toCoherent hkey]
  · rename_i hat
    refine hplace h (fun a ha e => hat ?_) hi
    exact List.any_eq_true.2 ⟨a, ha, beq_iff_eq.2 e⟩

theorem lineup_enroll (d : Device σ) :
    lineup { b with roster := b.roster.enroll d } =
      b.lineup.update b.roster.nextKey (some d.bearing) := by
  unfold lineup Lineup.update
  congr
  funext k
  dsimp only
  rw [Roster.get?_enroll]
  by_cases e : k = b.roster.nextKey
  · rw [if_pos e, if_pos e.symm]
    rfl
  · rw [if_neg e, if_neg fun e' => e e'.symm]

theorem bearing?_nextKey (b : Bus σ) : b.lineup.bearing? b.roster.nextKey = none := by
  show (b.roster.get? b.roster.nextKey).map _ = none
  unfold Roster.get? Roster.nextKey
  rw [Array.getElem?_size]
  rfl

/-- A new device may be attached if it holds no host handle, even at a location that is taken. -/
theorem sound_attach (h : b.lineup.Sound) {d : Device σ} (hd : d.hostHandle? = none) :
    (b.attach host d s).2.1.lineup.Sound := by
  have hb : Lineup.Sound (lineup { b with roster := b.roster.enroll d }) := by
    rw [lineup_enroll]
    exact h.enroll (bearing?_nextKey b) fun _ => hd
  refine sound_place host s hb (.inr fun a ha e => ?_) (i := d.identity) ?_ d.location_identity
  · obtain ⟨x, hx, -⟩ := h.enrolled a ha
    rw [e] at hx
    exact nomatch (bearing?_nextKey b).symm.trans hx
  · unfold identity?
    dsimp only
    rw [Roster.get?_enroll, if_pos rfl]
    rfl

theorem sound_reattach (h : b.lineup.Sound) {handle : Handle} (hheld : handle.key ∈ b.held) :
    (b.reattach host handle s).2.1.lineup.Sound := by
  unfold reattach
  split
  · exact h
  · rename_i d hd
    exact sound_place host s h (.inl hheld) (congrArg (Option.map Device.identity) hd)
      d.location_identity

/-! ## Clearing -/

theorem clear_lists (hP : Lineup.Kept P) (h : P b.lineup) (l : List Attachment) :
    let r := l.foldl (fun (b, s) a => b.closeAt host a.location s) (b, s)
    P r.1.lineup ∧ ∀ o ∈ r.1.opened, o ∈ b.opened ∧ ∀ a ∈ l, o.location ≠ a.location := by
  induction l generalizing b s with
  | nil => exact ⟨h, fun o ho => ⟨ho, nofun⟩⟩
  | cons a l ih =>
    obtain ⟨hs, hl⟩ := ih (b.closeAt host a.location s).2 (kept_closeAt host s hP h a.location)
    refine ⟨hs, fun o ho => ?_⟩
    obtain ⟨ho, hne⟩ := hl o ho
    obtain ⟨ho, hloc⟩ := (mem_opened_closeAt host s (hP.coherent h)).1 ho
    exact ⟨ho, List.forall_mem_cons.2 ⟨hloc, hne⟩⟩

theorem kept_removeAll (hP : Lineup.Kept P) (h : P b.lineup) (hopen : b.opened = [])
    (l : List Attachment) :
    let r := l.foldl (fun (b, s) a => b.removeAt host a.location s) (b, s)
    P r.1.lineup ∧ r.1.opened = [] := by
  induction l generalizing b s with
  | nil => exact ⟨h, hopen⟩
  | cons a l ih =>
    refine ih (b.removeAt host a.location s).2 (kept_removeAt host s hP h ?_) ?_
    · rw [hopen]
      exact nofun
    · exact (removeAt_lists host s (hP.coherent h) a.location).1.trans hopen

theorem kept_clear (hP : Lineup.Kept P) (h : P b.lineup) :
    P (b.clear host s).1.lineup ∧ (b.clear host s).1.opened = [] := by
  obtain ⟨hs, hl⟩ := clear_lists host s hP h b.opened
  refine kept_removeAll host _ hP hs (List.eq_nil_iff_forall_not_mem.2 fun o ho => ?_) b.attached
  obtain ⟨hmem, hne⟩ := hl o ho
  exact hne o hmem rfl

/-! ## Opening -/

theorem mem_attached_of_atBusNumber {n : UInt8} {a : Attachment} (h : b.atBusNumber n = some a) :
    a ∈ b.attached := by
  unfold atBusNumber at h
  split at h
  · exact nomatch h
  · exact List.mem_of_getElem? h

theorem mem_attached_of_resolve {r : DeviceRecord} {a : Attachment} (h : b.resolve r = some a) :
    a ∈ b.attached := by
  unfold resolve at h
  rcases Option.or_eq_some_iff.1 h with h | ⟨-, h⟩
  · exact mem_attached_of_atBusNumber (Option.filter_eq_some_iff.1 h).1
  · exact (mem_of_attachmentAt h).1

theorem lineup_noteOpen (a : Attachment) :
    (b.noteOpen a).lineup = { b.lineup with
      opened :=
        if b.opened.any (·.location == a.location) then b.opened else b.opened ++ [a] } := by
  unfold noteOpen isOpen
  split <;> rfl

theorem kept_openRecord (hP : Lineup.Kept P) (h : P b.lineup) (r : DeviceRecord) :
    P (b.openRecord host r s).2.1.lineup := by
  unfold openRecord
  split
  · exact h
  · split
    · exact h
    · rename_i a ha _ d hd
      have hcases := d.openForUse_cases host s
      have hi := d.identity_openForUse host s
      generalize d.openForUse host s = o at hcases hi
      obtain ⟨_ | _, d', s'⟩ := o
      · rcases hcases with ⟨e, -⟩ | ⟨e, -, hb⟩
        · exact nomatch e
        · show P (b.withDevice a.key d').lineup
          rwa [(recast_withDevice hd hb).lineup]
      · rcases hcases with ⟨-, hsome⟩ | ⟨e, he, -⟩
        · show P ((b.withDevice a.key d').noteOpen a).lineup
          rw [lineup_noteOpen, lineup_set hd]
          exact hP.noteOpen h (mem_attached_of_resolve ha)
            (congrArg (Option.map Device.bearing) hd) hi fun hp =>
              hsome ((congrArg DeviceIdentity.IsPassthrough hi).mp hp)
        · exact nomatch he

theorem kept_openByIds (hP : Lineup.Kept P) (h : P b.lineup) (vendorId productId : UInt16) :
    P (b.openByIds host vendorId productId s).2.1.lineup := by
  have he : P (b.enumerate host s).2.1.lineup := by
    rwa [(recast_enumerate host b s).lineup]
  unfold openByIds
  dsimp only
  split
  · exact he
  · exact kept_openRecord host _ hP he _

/-! ## Calls -/

theorem kept_complete (hP : Lineup.Kept P) (h : P b.lineup) (c : Completion) :
    P (b.complete host c s).1.lineup := by
  unfold complete
  split
  · exact h
  · split
    · split
      · exact kept_disconnectAt host s (b := b.delivered c _) hP h _ true
      · exact h
    · exact h

/-- What is kept when devices are opened, closed, removed and discarded is kept by every call that
attaches none. -/
theorem kept_call (hP : Lineup.Kept P) (h : P b.lineup) {op : Operation σ}
    (hattach : ∀ d, op ≠ .attach d) (hreattach : ∀ handle, op ≠ .reattach handle) :
    P (b.call host s op).2.1.lineup := by
  cases op with
  | attach d => exact absurd rfl (hattach d)
  | reattach handle => exact absurd rfl (hreattach handle)
  | letGo handle => exact kept_reap host (b := { b with held := b.held.erase handle.key }) s hP h _
  | openRecord record => exact kept_openRecord host s hP h record
  | openByIds vendorId productId => exact kept_openByIds host s hP h vendorId productId
  | disconnect handle remove => exact kept_disconnectAt host s hP h handle.location remove
  | submitControl | submitInterrupt | submitIsochronous =>
    rw [lineup_of_submits host s rfl]
    exact h
  | complete completion => exact kept_complete host s hP h completion
  | fail id error =>
    show P (b.fail id error).lineup
    unfold fail
    repeat' split
    all_goals exact h
  | clear => exact (kept_clear host s hP h).1
  | pump | store => exact h
  | _ =>
    rw [(recast_call host b s (by trivial)).lineup]
    exact h

/-- A call attaches a new device, or one of a handle, or none. -/
theorem attaches_cases (op : Operation σ) :
    (∃ d, op = .attach d) ∨ (∃ handle, op = .reattach handle) ∨
      (∀ d, op ≠ .attach d) ∧ ∀ handle, op ≠ .reattach handle := by
  by_cases hattach : ∃ d, op = .attach d
  · exact .inl hattach
  · by_cases hreattach : ∃ handle, op = .reattach handle
    · exact .inr (.inl hreattach)
    · exact .inr (.inr ⟨not_exists.1 hattach, not_exists.1 hreattach⟩)

/-- Whether a call attaches no device with a host handle, and no device that the caller has not. -/
def AttachesClosed (b : Bus σ) : Operation σ → Prop
  | .attach d => d.hostHandle? = none
  | .reattach h => h.key ∈ b.held
  | _ => True

theorem sound_call (h : b.lineup.Sound) {op : Operation σ} (hop : b.AttachesClosed op) :
    (b.call host s op).2.1.lineup.Sound := by
  rcases attaches_cases op with ⟨d, rfl⟩ | ⟨handle, rfl⟩ | ⟨hattach, hreattach⟩
  · exact sound_attach host s h hop
  · exact sound_reattach host s h hop
  · exact kept_call host s Lineup.kept_sound h hattach hreattach

/-! ## Transfers -/

/-- How the lists of devices and the host handles of a bus agree. -/
structure Lists (b : Bus σ) : Prop where
  attached : (b.attached.map (·.location)).Nodup
  opened : (b.opened.map (·.location)).Nodup
  known : ∀ a ∈ b.opened, a ∈ b.attached
  enrolled : ∀ a ∈ b.attached, ∃ d, b.roster.get? a.key = some d ∧ d.state.location = a.location
  handles : ∀ a ∈ b.attached, ∀ p, b.roster.get? a.key = some (.passthrough p) →
    (p.handle.isSome = true ↔ a ∈ b.opened)

theorem lists_of_sound (h : b.lineup.Sound) : b.Lists where
  attached := h.attached
  opened := h.opened
  known := h.known
  enrolled a ha := by
    obtain ⟨x, hx, hl⟩ := h.enrolled a ha
    obtain ⟨d, hd, rfl⟩ := Option.map_eq_some_iff.1 hx
    exact ⟨d, hd, d.location_identity.symm.trans hl⟩
  handles a ha p hp := by
    refine (h.handles (congrArg (Option.map Device.bearing) hp) trivial).trans ⟨?_, ?_⟩
    · rintro ⟨o, ho, e⟩
      exact h.single o (h.known o ho) a ha e ▸ ho
    · exact fun ho => ⟨a, ho, rfl⟩

theorem mem_opened_of_openedDevice {handle : Handle} {key : DeviceKey} {d : Device σ}
    (hd : b.openedDevice handle = some (key, d)) : ⟨handle.location, key⟩ ∈ b.opened := by
  obtain ⟨a, ha, hmap⟩ := Option.bind_eq_some_iff.1 hd
  obtain ⟨e, -, heq⟩ := Option.map_eq_some_iff.1 hmap
  obtain ⟨rfl, -⟩ := Prod.mk.inj heq
  obtain ⟨hmem, hl⟩ := mem_of_attachmentAt ha
  rw [← hl]
  exact hmem

theorem Lists.handle_of_openedDevice (h : b.Lists) {handle : Handle} {key : DeviceKey}
    {p : Passthrough} (hd : b.openedDevice handle = some (key, .passthrough p)) :
    ∃ hostHandle, p.handle = some hostHandle := by
  have hmem := mem_opened_of_openedDevice hd
  exact Option.isSome_iff_exists.1
    ((h.handles _ (h.known _ hmem) p (roster_of_openedDevice hd)).2 hmem)

end Bus

/-- The handle by which a call submits a transfer. -/
def Operation.target? {σ : Type} : Operation σ → Option Handle
  | .submitControl handle .. | .submitInterrupt handle .. => some handle
  | .submitIsochronous handle .. => some handle
  | _ => none

theorem Operation.isSome_submits {σ : Type} (op : Operation σ) {h : Handle}
    (hop : op.target? = some h) : op.submits.isSome = true := by
  cases op with
  | submitControl | submitInterrupt | submitIsochronous => rfl
  | _ => exact nomatch hop

namespace Passthrough

variable {p : Passthrough} {handle : HostHandle} (hp : p.handle = some handle) (v : Service)

include hp

theorem submission_controlTransfer (setup : SetupPacket) (buffer : GuestBuffer) :
    ∃ t, (p.controlTransfer setup buffer v).submission = some t ∧ t.handle = handle := by
  unfold controlTransfer
  rw [hp]
  exact ⟨_, rfl, rfl⟩

theorem submission_interruptTransfer (endpoint : UInt8) (buffer : GuestBuffer) :
    ∃ t, (p.interruptTransfer endpoint buffer v).submission = some t ∧ t.handle = handle := by
  unfold interruptTransfer
  rw [hp]
  exact ⟨_, rfl, rfl⟩

theorem submission_isochronousTransfer :
    ∃ t, (p.isochronousTransfer v).submission = some t ∧ t.handle = handle := by
  unfold isochronousTransfer
  rw [hp]
  exact ⟨_, rfl, rfl⟩

end Passthrough

namespace Bus

variable {σ : Type} (host : Host σ) {b : Bus σ} (s : σ)

theorem submission_of_dispatch {h : Handle} {now : UInt64} {iso : IsoRequest}
    {serve : Device σ → Service → σ → Device σ × Service × σ} {key : DeviceKey} {dev : Device σ}
    {d : Dispatch} (hdev : b.openedDevice h = some (key, dev))
    (hok : (b.dispatch h now iso serve s).1 = .ok d) :
    ∃ v, d.submission = (serve dev v s).2.1.submission := by
  unfold dispatch at hok
  rw [hdev] at hok
  dsimp only at hok
  split at hok
  · exact nomatch hok
  · obtain rfl := Except.ok.inj hok
    exact ⟨_, rfl⟩

/-- A transfer to a passthrough device that holds a host handle is prepared for the host. -/
theorem submission_of_handle {op : Operation σ} {h : Handle} {key : DeviceKey} {p : Passthrough}
    {handle : HostHandle} {d : Dispatch} (hop : op.target? = some h)
    (hdev : b.openedDevice h = some (key, .passthrough p)) (hp : p.handle = some handle)
    (hok : (b.call host s op).1 = .dispatch (.ok d)) :
    ∃ t, d.submission = some t ∧ t.handle = handle := by
  cases op with
  | submitControl h' setup buffer now =>
    obtain rfl := Option.some.inj hop
    obtain ⟨v, hv⟩ := submission_of_dispatch s hdev (Answer.dispatch.inj hok)
    rw [hv]
    exact p.submission_controlTransfer hp v setup buffer
  | submitInterrupt h' endpoint buffer now =>
    obtain rfl := Option.some.inj hop
    obtain ⟨v, hv⟩ := submission_of_dispatch s hdev (Answer.dispatch.inj hok)
    rw [hv]
    exact p.submission_interruptTransfer hp v endpoint buffer
  | submitIsochronous h' request now =>
    obtain rfl := Option.some.inj hop
    have hok : (b.submitIsochronous h' request now s).1 = .ok d := Answer.dispatch.inj hok
    unfold submitIsochronous at hok
    split at hok
    · exact nomatch hok
    · obtain ⟨v, hv⟩ := submission_of_dispatch s hdev hok
      rw [hv]
      exact p.submission_isochronousTransfer hp v
  | _ => exact nomatch hop

end Bus

namespace Scene

variable {σ : Type} {host : Host σ}

theorem Reached.sound {allowed : Scene σ → Operation σ → Prop} {first c : Scene σ}
    (h : Reached host allowed first c) (h0 : first.bus.lineup.Sound)
    (hallowed : ∀ c op, allowed c op → c.bus.AttachesClosed op) : c.bus.lineup.Sound :=
  h.invariant (P := fun c => c.bus.lineup.Sound) h0 fun c op hc hop =>
    Bus.sound_call host c.world hc (hallowed c op hop)

/-- **The lists of devices agree.** Whatever calls were made of a new bus, as long as the devices
attached hold no host handle: no two devices share a location, those open are on the bus, and a
passthrough device holds a host handle just if it is open. So every transfer accepted for such a
device is prepared for the host, under the handle that the device holds. -/
theorem lists_of_reached {n : Nat} {latency : UInt64} {memory : Memory} {world : σ} {c : Scene σ}
    (h : Reached host (fun c op => c.bus.AttachesClosed op)
      ⟨Bus.empty n latency memory, world, []⟩ c) :
    c.bus.Lists ∧ ∀ op handle key p d, op.target? = some handle →
      c.bus.openedDevice handle = some (key, .passthrough p) →
      (c.bus.call host c.world op).1 = .dispatch (.ok d) →
      ∃ t, d.submission = some t ∧ p.handle = some t.handle := by
  have hsound : c.bus.lineup.Sound :=
    h.invariant (P := fun c => c.bus.lineup.Sound) (Bus.lineup_empty n latency memory)
      fun c op hc hop => Bus.sound_call host c.world hc hop
  have hlists := Bus.lists_of_sound hsound
  refine ⟨hlists, fun op handle key p d hop hdev hok => ?_⟩
  obtain ⟨hostHandle, hp⟩ := hlists.handle_of_openedDevice hdev
  obtain ⟨t, ht, rfl⟩ := Bus.submission_of_handle host c.world hop hdev hp hok
  exact ⟨t, ht, hp⟩

/-- A device that is attached where an open one stands takes its place, and the old one is
closed. -/
theorem lists_of_replacement :
    ∃ c : Scene Unit, c.bus.attached = [⟨default, ⟨1⟩⟩] ∧ c.bus.opened = [] ∧ c.bus.Lists := by
  let p : Passthrough :=
    { state := ⟨default, .ofLayout ({} : DeviceDescriptor), 1, 0⟩, device := default }
  have h0 : Reached { Host.none with openDevice _ s := (.ok 1, s), claim _ _ s := (.ok (), s) }
      (fun c op => c.bus.AttachesClosed op) ⟨Bus.empty 2 0 (.blank 8), (), []⟩ _ := .first
  have h1 := h0.after (.attach (.passthrough p)) rfl
  have h2 := h1.after (.openRecord default) trivial
  have h3 := h2.after (.attach (.passthrough p)) rfl
  exact ⟨_, rfl, rfl, (lists_of_reached h3).1⟩

end Scene

end VirtualUsb
