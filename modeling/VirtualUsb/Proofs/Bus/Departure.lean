import VirtualUsb.Proofs.Bus.Moves
import VirtualUsb.Proofs.Transfer.Submission

/-!
# Devices that the host reports gone

A transfer notes the location of its device, and a report that the device is gone clears that
location (`Bus.departs_disconnectAt`). The device that the transfer was submitted to is still the
one at that location, unless another was attached in its place; then it is the other that leaves,
closed if it was open (`Scene.departure_of_reached`).
-/

namespace VirtualUsb

/-! ## What devices stay -/

namespace Roster

variable {σ : Type} {host : Host σ} {op : Operation σ}

/-- Whether a key was given to a device that is what it is, and that may have been discarded
since. -/
def Keeps (key : DeviceKey) (i : DeviceIdentity) (r : Roster σ) : Prop :=
  key.index < r.entries.size ∧ ∀ d, r.get? key = some d → d.identity = i

theorem keeps_of_get? {r : Roster σ} {key : DeviceKey} {d : Device σ} (hd : r.get? key = some d) :
    r.Keeps key d.identity := by
  refine ⟨(Array.getElem?_eq_some_iff.1 (Option.join_eq_some_iff.1 hd)).1, fun d' hd' => ?_⟩
  rw [Option.some.inj (hd.symm.trans hd')]

theorem Keeps.move {key : DeviceKey} {i : DeviceIdentity} {x y : Roster σ × σ}
    (h : x.1.Keeps key i) (hm : Move host op x y) : y.1.Keeps key i := by
  obtain ⟨hlt, hid⟩ := h
  refine ⟨Nat.lt_of_lt_of_le hlt hm.size_le, fun d hd => ?_⟩
  rcases hm.origin hd with hd₀ | ⟨d₀, call, hd₀, hcall, e⟩ | ⟨rfl, -⟩
  · exact hid d hd₀
  · have hsame := d₀.identity_perform host x.2 hcall.ofBus
    rw [e] at hsame
    exact hsame.trans (hid d₀ hd₀)
  · exact absurd hlt (Nat.lt_irrefl _)

end Roster

/-- A device that a key still names is what it was. -/
theorem Scene.Reached.keeps {σ : Type} {host : Host σ} {allowed : Scene σ → Operation σ → Prop}
    {first c : Scene σ} (h : Reached host allowed first c) {key : DeviceKey} {i : DeviceIdentity}
    (hi : first.bus.roster.Keeps key i) : c.bus.roster.Keeps key i :=
  h.moves (P := fun x => x.1.Keeps key i) hi (fun _ _ _ _ _ hm hx => hx.move hm) fun _ _ _ hx => hx

/-! ## Clearing a location -/

namespace Bus

theorem withoutLocation_eq_filter {l : List Attachment} (h : (l.map (·.location)).Nodup)
    (location : Location) :
    withoutLocation l location = l.filter fun a => !(a.location == location) := by
  unfold withoutLocation
  induction l with
  | nil => rfl
  | cons x rest ih =>
    obtain ⟨hx, hrest⟩ := List.nodup_cons.1 h
    by_cases hl : x.location = location
    · -- no other entry has the location of the one erased
      have hne (a : Attachment) (ha : a ∈ rest) : (!(a.location == location)) = true := by
        rw [Bool.not_eq_true', beq_eq_false_iff_ne]
        rintro rfl
        exact hx (List.mem_map.2 ⟨a, ha, hl.symm⟩)
      rw [List.eraseP_cons, List.filter_cons, beq_iff_eq.2 hl, cond_true, Bool.not_true,
        if_neg Bool.false_ne_true, List.filter_eq_self.2 hne]
    · rw [List.eraseP_cons, List.filter_cons, beq_eq_false_iff_ne.2 hl, cond_false, Bool.not_false,
        if_pos rfl, ih hrest]

variable {σ : Type} {b b' : Bus σ}

/-- Whether just some attachments have left a bus. All others keep their places in both lists, and
a device that did not stand where one left is as it was. -/
structure Departs (gone : Attachment → Bool) (b b' : Bus σ) : Prop where
  attached : b'.attached = b.attached.filter (!gone ·)
  opened : b'.opened = b.opened.filter (!gone ·)
  devices : ∀ key, (∀ a ∈ b.attached, a.key = key → gone a = false) →
    b'.roster.get? key = b.roster.get? key

theorem Departs.congr {gone gone' : Attachment → Bool} (h : Departs gone b b')
    (hknown : ∀ a ∈ b.opened, a ∈ b.attached) (e : ∀ a ∈ b.attached, gone a = gone' a) :
    Departs gone' b b' where
  attached := h.attached.trans (List.filter_congr fun a ha => congrArg _ (e a ha))
  opened := h.opened.trans (List.filter_congr fun a ha => congrArg _ (e a (hknown a ha)))
  devices key hkey := h.devices key fun a ha hk => (e a ha).trans (hkey a ha hk)

theorem Departs.unique {gone gone' : Attachment → Bool} (h : Departs gone b b')
    (h' : Departs gone' b b') {a : Attachment} (ha : a ∈ b.attached) : gone a = gone' a := by
  have hfilter : a ∈ b.attached.filter (!gone ·) ↔ a ∈ b.attached.filter (!gone' ·) := by
    rw [← h.attached, ← h'.attached]
  rw [List.mem_filter, List.mem_filter, and_iff_right ha, and_iff_right ha] at hfilter
  simpa using Bool.eq_iff_iff.2 hfilter

variable (host : Host σ) (s : σ)

theorem filter_eq_self_of_free {l : List Attachment} {location : Location}
    (h : ∀ a ∈ l, a.location ≠ location) : l = l.filter fun a => !(a.location == location) := by
  refine (List.filter_eq_self.2 fun a ha => ?_).symm
  rw [beq_eq_false_iff_ne.2 (h a ha)]
  rfl

theorem opened_closeAt (h : b.lineup.Coherent) (location : Location) :
    (b.closeAt host location s).1.opened = b.opened.filter fun a => !(a.location == location) := by
  rcases closeAt_cases host s h location with ⟨hne, e⟩ | ⟨a, -, -, d, -, e⟩
  · rw [e]
    exact filter_eq_self_of_free hne
  · rw [e]
    exact withoutLocation_eq_filter h.opened location

theorem get?_closeAt (h : b.lineup.Coherent) {location : Location} {key : DeviceKey}
    (hkey : ∀ a ∈ b.attached, a.key = key → a.location ≠ location) :
    (b.closeAt host location s).1.roster.get? key = b.roster.get? key := by
  rcases closeAt_cases host s h location with ⟨-, e⟩ | ⟨a, ha, hl, d, hd, e⟩
  · rw [e]
  · rw [e]
    refine (Roster.get?_set_of_get? hd _ key).trans (if_neg ?_)
    intro hk
    exact hkey a (h.known a ha) hk hl

theorem attached_removeAt (h : b.lineup.Coherent) (location : Location) :
    (b.removeAt host location s).1.attached =
      b.attached.filter fun a => !(a.location == location) := by
  unfold removeAt
  split
  · rename_i ha
    exact filter_eq_self_of_free (ne_of_attachmentAt_eq_none ha)
  · rename_i a _
    have hfilter := withoutLocation_eq_filter h.attached location
    rcases reap_cases host (b := { b with attached := withoutLocation b.attached location }) s a.key
      with e | ⟨-, e⟩
    all_goals
      rw [e]
      exact hfilter

theorem get?_removeAt {location : Location} {key : DeviceKey}
    (hkey : ∀ a ∈ b.attached, a.key = key → a.location ≠ location) :
    (b.removeAt host location s).1.roster.get? key = b.roster.get? key := by
  unfold removeAt
  split
  · rfl
  · rename_i a ha
    obtain ⟨hmem, hl⟩ := mem_of_attachmentAt ha
    rcases reap_cases host (b := { b with attached := withoutLocation b.attached location }) s a.key
      with e | ⟨-, e⟩
    · rw [e]
    · rw [e]
      refine (Roster.get?_retire b.roster a.key key).trans (if_neg ?_)
      intro hk
      exact hkey a hmem hk hl

theorem get?_disconnectAt (h : b.lineup.Coherent) {location : Location} {key : DeviceKey}
    (hkey : ∀ a ∈ b.attached, a.key = key → a.location ≠ location) (remove : Bool) :
    (b.disconnectAt host location remove s).1.roster.get? key = b.roster.get? key := by
  have hclosed := get?_closeAt host s h hkey
  rw [← (attached_closeAt host s h location).1] at hkey
  unfold disconnectAt
  dsimp only
  split
  · exact (get?_removeAt host _ hkey).trans hclosed
  · exact hclosed

theorem departs_disconnectAt (h : b.lineup.Coherent) (location : Location) :
    Departs (·.location == location) b (b.disconnectAt host location true s).1 := by
  have hclosed := coherent_closeAt host s h location
  obtain ⟨hattached, -⟩ := attached_closeAt host s h location
  refine ⟨?_, ?_, fun key hkey => ?_⟩
  · rw [← hattached]
    exact attached_removeAt host _ hclosed location
  · rw [← opened_closeAt host s h location]
    exact (removeAt_lists host _ hclosed location).1
  · have hne (a : Attachment) (ha : a ∈ b.attached) (hk : a.key = key) : a.location ≠ location :=
      beq_eq_false_iff_ne.1 (hkey a ha hk)
    exact get?_disconnectAt host s h hne true

/-- A report that a device is gone clears the location that the transfer is noted for. -/
theorem departs_complete (h : b.lineup.Coherent) {x : Completion} {t : Transfer}
    {location : Location} (ht : b.pool.get? x.id = some t) (hw : awaitsHost t = true)
    (howner : t.owner = some location) (hx : x.status = .noDevice) :
    Departs (·.location == location) b (b.complete host x s).1 := by
  have hdelivered : Departs (·.location == location) b
      ((b.delivered x t).disconnectAt host location true s).1 := by
    obtain ⟨hattached, hopened, hdevices⟩ :=
      departs_disconnectAt host (b := b.delivered x t) s h location
    exact ⟨hattached, hopened, hdevices⟩
  unfold complete
  rw [ht]
  dsimp only
  rw [if_pos hw, hx, howner]
  exact hdelivered

end Bus

/-! ## Runs -/

theorem Scene.Reached.location_eq {σ : Type} {host : Host σ}
    {allowed : Scene σ → Operation σ → Prop} {first c : Scene σ} (h : Reached host allowed first c)
    (hallowed : ∀ c op, allowed c op → c.bus.AttachesClosed op) (h0 : first.bus.lineup.Sound)
    {o a : Attachment} (ho : o ∈ first.bus.attached) (ha : a ∈ c.bus.attached)
    (hkey : a.key = o.key) : a.location = o.location := by
  -- what it was, and what it is now
  obtain ⟨x, hx, hxl⟩ := h0.enrolled o ho
  obtain ⟨d, hd, rfl⟩ := Option.map_eq_some_iff.1 hx
  obtain ⟨y, hy, hyl⟩ := (h.sound h0 hallowed).enrolled a ha
  obtain ⟨e, he, rfl⟩ := Option.map_eq_some_iff.1 hy
  have hidentity : e.identity = d.identity :=
    (h.keeps (Roster.keeps_of_get? hd)).2 e (hkey ▸ he)
  calc a.location = e.identity.location := hyl.symm
    _ = d.identity.location := congrArg _ hidentity
    _ = o.location := hxl

namespace Submission.Waits

variable {σ : Type} {host : Host σ} {first c : Scene σ} {u : Submission σ} {t : Transfer}

/-- The device of a submission still stands where it stood, if it is on the bus. -/
theorem location_eq (h : u.Waits host (fun c op => c.bus.AttachesClosed op) first t c)
    (h0 : first.bus.lineup.Sound) {a : Attachment} (ha : a ∈ c.bus.attached)
    (hkey : a.key = u.key) : a.location = u.handle.location := by
  have hsound := h.reached.sound h0 fun _ _ hop => hop
  have hopened := Bus.mem_opened_of_openedDevice h.opened
  exact h.run.location_eq (fun _ _ hop => hop) hsound (hsound.known _ hopened) ha hkey

/-- A report that the device of a submission is gone clears the location where it stood. That takes
no other device off the bus just if no other stands there. -/
theorem departs (h : u.Waits host (fun c op => c.bus.AttachesClosed op) first t c)
    (h0 : first.bus.lineup.Sound) (hn : first.bus.pool.Named) {x : Completion}
    (hid : x.id = u.answer.id) (hx : x.status = .noDevice) :
    c.bus.Departs (·.location == u.handle.location) (c.bus.complete host x c.world).1 ∧
      (c.bus.Departs (·.key == u.key) (c.bus.complete host x c.world).1 ↔
        ∀ a ∈ c.bus.attached, a.location = u.handle.location → a.key = u.key) := by
  have hsound := (h.reached.trans h.run).sound h0 fun _ _ hop => hop
  have hgone := Bus.departs_complete host c.world hsound.toCoherent (hid ▸ h.get? hn) h.awaits
    (h.owner_eq hn) hx
  refine ⟨hgone, fun hkey a ha hl => ?_, fun hall => ?_⟩
  · have hsame := hgone.unique hkey ha
    rw [beq_iff_eq.2 hl] at hsame
    exact beq_iff_eq.1 hsame.symm
  · refine hgone.congr hsound.known fun a ha => ?_
    rw [Bool.eq_iff_iff, beq_iff_eq, beq_iff_eq]
    exact ⟨hall a ha, h.location_eq h0 ha⟩

end Submission.Waits

namespace Scene

variable {σ : Type} {host : Host σ} {c : Scene σ}

/-- **Who leaves when a device is gone.** Whatever calls were made of a new bus, a transfer that
waits for the host was left so by a submission. If the host reports the device gone, the location by
which the device was reached is cleared, and all else on the bus stays. So no device but that of the
submission leaves or is closed just as long as no other was attached in its place. -/
theorem departure_of_reached {n : Nat} (hn : n ≤ UInt32.size) {latency : UInt64}
    {memory : Memory} {world : σ} (h : Reached host (fun c op => c.bus.AttachesClosed op)
      ⟨Bus.empty n latency memory, world, []⟩ c) {x : Completion} {t : Transfer}
    (ht : c.bus.pool.get? x.id = some t) (hbusy : t.busy = true) (hs : t.isScheduled = false)
    (hx : x.status = .noDevice) :
    ∃ u : Submission σ, u.answer.id = x.id ∧
      u.Waits host (fun c op => c.bus.AttachesClosed op) ⟨Bus.empty n latency memory, world, []⟩ t
        c ∧
      c.bus.Departs (·.location == u.handle.location) (c.bus.complete host x c.world).1 ∧
      (c.bus.Departs (·.key == u.key) (c.bus.complete host x c.world).1 ↔
        ∀ a ∈ c.bus.attached, a.location = u.handle.location → a.key = u.key) := by
  have hw : Bus.awaitsHost t = true :=
    Bus.awaitsHost_iff.2 ⟨hbusy, Transfer.isScheduled_eq_false.1 hs⟩
  have hnamed := TransferPool.named_ofCapacity hn
  obtain ⟨u, hid, hu⟩ := h.exists_submission hnamed (Bus.not_awaitsHost_empty n) ht hw
  exact ⟨u, hid, hu, hu.departs (Bus.lineup_empty n latency memory) hnamed hid.symm hx⟩

/-! ### A device in another's place -/

/-- A bus with one device of the host, to which an interrupt transfer is in flight. -/
def waiting : Scene Unit := plugged.after .obliging (.submitInterrupt default 129 ⟨0, 8⟩ 0)

/-- Another device of the host that is attached in the same place. -/
def attachAnother : Operation Unit := .attach (.passthrough (.idle { id := 21, descriptor := {} }))

/-- The same bus after another device was attached in place of the first, and opened. -/
def replaced : Scene Unit :=
  (waiting.after .obliging attachAnother).after .obliging (.openRecord default)

/-- The report that the device of the transfer is gone. -/
def gone : Completion := ⟨⟨1⟩, .interrupt, .noDevice, 0, [], []⟩

theorem reached_waiting :
    Reached .obliging (fun c op => c.bus.AttachesClosed op) blank waiting :=
  reached_plugged.after _ trivial

theorem reached_replaced :
    Reached .obliging (fun c op => c.bus.AttachesClosed op) blank replaced :=
  (reached_waiting.after attachAnother rfl).after _ trivial

/-- When the device of the transfer is reported gone, the place where it was is cleared. -/
theorem departure_of_waiting :
    ∃ u : Submission Unit, u.answer.id = ⟨1⟩ ∧
      waiting.bus.Departs (·.location == u.handle.location)
        (waiting.bus.complete .obliging gone ()).1 := by
  obtain ⟨u, hid, -, hdeparts, -⟩ := departure_of_reached (x := gone) (by decide) reached_waiting
    rfl rfl rfl rfl
  exact ⟨u, hid, hdeparts⟩

/-- The transfer was submitted to the first device, and the report that it is gone closes the second
and takes it off the bus. -/
theorem departure_of_another :
    Reached .obliging (fun c op => c.bus.AttachesClosed op) blank replaced ∧
      ∃ (u : Submission Unit) (t : Transfer), u.key = ⟨0⟩ ∧ u.answer.id = gone.id ∧
        u.Waits .obliging (fun c op => c.bus.AttachesClosed op) blank t replaced ∧
        replaced.bus.attached = [⟨default, ⟨1⟩⟩] ∧ replaced.bus.opened = [⟨default, ⟨1⟩⟩] ∧
        (replaced.bus.roster.get? ⟨1⟩).map Device.hostHandle? = some (some 1) ∧
        (replaced.bus.complete .obliging gone ()).1.attached = [] ∧
        (replaced.bus.complete .obliging gone ()).1.opened = [] ∧
        ((replaced.bus.complete .obliging gone ()).1.roster.get? ⟨1⟩).map Device.hostHandle? =
          some none := by
  have hsince : Reached .obliging (fun c op => c.bus.AttachesClosed op ∧ ¬ op.Answers ⟨1⟩) waiting
      replaced :=
    (Reached.first.after attachAnother ⟨rfl, fun h => h⟩).after _ ⟨trivial, fun h => h⟩
  obtain ⟨x, hok⟩ : ∃ x, (plugged.bus.call .obliging () (.submitInterrupt default 129 ⟨0, 8⟩ 0)).1 =
    .dispatch (.ok ⟨⟨1⟩, some x⟩) := ⟨_, rfl⟩
  have hwaits : ∃ d t, Submission.Waits .obliging (fun c op => c.bus.AttachesClosed op) blank
      ⟨plugged, .submitInterrupt default 129 ⟨0, 8⟩ 0, default, ⟨0⟩, d, ⟨⟨1⟩, some x⟩⟩ t replaced :=
    ⟨_, _, reached_plugged, trivial, rfl, rfl, hok, rfl, rfl, hsince⟩
  obtain ⟨d, t, hu⟩ := hwaits
  exact ⟨reached_replaced, _, t, rfl, rfl, hu, rfl, rfl, rfl, rfl, rfl, rfl⟩

end Scene

end VirtualUsb
