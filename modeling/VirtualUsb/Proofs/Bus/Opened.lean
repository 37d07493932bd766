import VirtualUsb.Proofs.Bus.Places

/-!
# Open devices

What is open after a call is what the call opened, and what was open before at a location that the
call does not clear (`Bus.mem_opened_call`). If no two devices were attached for one place, this can
be said of devices (`Bus.hasOpen_call`), and over a run: a device that was open is so no longer just
if it was closed and has not been opened since (`Scene.Reached.not_hasOpen_iff`).
-/

namespace VirtualUsb

/-- Where the device of a handle stands. -/
def Handle.attachment (h : Handle) : Attachment := ⟨h.location, h.key⟩

/-- Whether an answer hands out a handle of a device where it stands. -/
def Answer.OpensAt (a : Attachment) : Answer → Prop
  | .handle (.ok h) => h.attachment = a
  | _ => False

/-- Whether an answer hands out a handle of a device. -/
def Answer.Opens (key : DeviceKey) : Answer → Prop
  | .handle (.ok h) => h.key = key
  | _ => False

namespace Bus

variable {σ : Type} (host : Host σ) {b : Bus σ} (s : σ)

/-! ## What is open after a call -/

/-- Whether a call closes whatever is open at a location. -/
def Clears (b : Bus σ) (location : Location) : Operation σ → Prop
  | .attach d => d.state.location = location
  | .reattach h => ∃ d, b.roster.get? h.key = some d ∧ d.state.location = location
  | .disconnect h _ => h.location = location
  | .complete x => x.status = .noDevice ∧
    ∃ t, b.pool.get? x.id = some t ∧ awaitsHost t = true ∧ t.owner = some location
  | .clear => True
  | _ => False

theorem mem_opened_disconnectAt (h : b.lineup.Coherent) (location : Location) (remove : Bool)
    {o : Attachment} : o ∈ (b.disconnectAt host location remove s).1.opened ↔
      o ∈ b.opened ∧ ¬ location = o.location := by
  have hclosed : o ∈ (b.closeAt host location s).1.opened ↔
      o ∈ b.opened ∧ ¬ location = o.location := by
    rw [mem_opened_closeAt host s h]
    exact and_congr_right fun _ => not_congr eq_comm
  unfold disconnectAt
  dsimp only
  split
  · rw [(removeAt_lists host _ (coherent_closeAt host s h location) location).1]
    exact hclosed
  · exact hclosed

theorem mem_opened_place (h : b.lineup.Coherent) (key : DeviceKey) (location : Location)
    {o : Attachment} : o ∈ (b.place host key location s).1.opened ↔
      o ∈ b.opened ∧ ¬ location = o.location := by
  unfold place
  dsimp only
  split
  · exact mem_opened_disconnectAt host s h location true
  · rename_i hat
    refine ⟨fun ho => ⟨ho, fun e => hat ?_⟩, And.left⟩
    exact List.any_eq_true.2 ⟨o, h.known o ho, beq_iff_eq.2 e.symm⟩

theorem mem_opened_complete (h : b.lineup.Coherent) (x : Completion) {o : Attachment} :
    o ∈ (b.complete host x s).1.opened ↔
      o ∈ b.opened ∧ ¬ b.Clears o.location (.complete x) := by
  have hstays (hc : ¬ b.Clears o.location (.complete x)) :
      o ∈ b.opened ↔ o ∈ b.opened ∧ ¬ b.Clears o.location (.complete x) :=
    ⟨fun ho => ⟨ho, hc⟩, And.left⟩
  unfold complete
  split
  · rename_i hnone
    refine hstays ?_
    rintro ⟨-, t, ht, -⟩
    exact nomatch hnone.symm.trans ht
  · rename_i t ht
    split
    · rename_i hw
      dsimp only
      split
      · rename_i location hstatus howner
        refine (mem_opened_disconnectAt host (b := b.delivered x t) s h location true).trans
          (and_congr_right fun _ => not_congr ⟨?_, ?_⟩)
        · rintro rfl
          exact ⟨hstatus, t, ht, hw, howner⟩
        · rintro ⟨-, t', ht', -, howner'⟩
          obtain rfl := Option.some.inj (ht.symm.trans ht')
          exact Option.some.inj (howner.symm.trans howner')
      · rename_i hno
        refine hstays ?_
        rintro ⟨hstatus, t', ht', -, howner⟩
        obtain rfl := Option.some.inj (ht.symm.trans ht')
        exact hno _ hstatus howner
    · rename_i hw
      refine hstays ?_
      rintro ⟨-, t', ht', hw', -⟩
      obtain rfl := Option.some.inj (ht.symm.trans ht')
      exact hw hw'

theorem mem_opened_openRecord (h : b.lineup.Coherent) (r : DeviceRecord) {o : Attachment} :
    o ∈ (b.openRecord host r s).2.1.opened ↔
      Answer.OpensAt o (.handle (b.openRecord host r s).1) ∨ o ∈ b.opened := by
  unfold openRecord
  split
  · exact ⟨.inr, fun ho => ho.elim False.elim id⟩
  · rename_i a ha
    split
    · exact ⟨.inr, fun ho => ho.elim False.elim id⟩
    · rename_i d hd
      generalize d.openForUse host s = out
      obtain ⟨_ | _, d', s'⟩ := out
      · exact ⟨.inr, fun ho => ho.elim False.elim id⟩
      · have hnote : o ∈ ((b.withDevice a.key d').noteOpen a).opened ↔ o ∈ b.opened ∨ o = a := by
          refine Iff.trans (iff_of_eq (congrArg (o ∈ ·) ?_))
            (h.mem_noteOpen (mem_attached_of_resolve ha))
          exact congrArg Lineup.opened (lineup_noteOpen (b := b.withDevice a.key d') a)
        refine hnote.trans (Or.comm.trans (or_congr_left ?_))
        exact eq_comm

theorem mem_opened_openByIds (h : b.lineup.Coherent) (vendorId productId : UInt16)
    {o : Attachment} : o ∈ (b.openByIds host vendorId productId s).2.1.opened ↔
      Answer.OpensAt o (.handle (b.openByIds host vendorId productId s).1) ∨ o ∈ b.opened := by
  have hrecast := (recast_enumerate host b s).lineup
  have hopened : (b.enumerate host s).2.1.opened = b.opened := congrArg Lineup.opened hrecast
  unfold openByIds
  dsimp only
  split
  · rw [hopened]
    exact ⟨.inr, fun ho => ho.elim False.elim id⟩
  · rw [← hopened]
    exact mem_opened_openRecord host _ (hrecast.symm ▸ h) _

theorem opened_reap (key : DeviceKey) : (b.reap host key s).1.opened = b.opened := by
  rcases reap_cases host (b := b) s key with e | ⟨-, e⟩
  all_goals rw [e]

theorem opened_of_lineup_eq {b b' : Bus σ} (h : b'.lineup = b.lineup) : b'.opened = b.opened :=
  congrArg Lineup.opened h

/-- What is open after a call: what it opened, and what was open before and is not where the call
closes. -/
theorem mem_opened_call (h : b.lineup.Coherent) (op : Operation σ) {o : Attachment} :
    o ∈ (b.call host s op).2.1.opened ↔
      (b.call host s op).1.OpensAt o ∨ o ∈ b.opened ∧ ¬ b.Clears o.location op := by
  have hstays {a : Answer} {b' : Bus σ} (e : b'.opened = b.opened)
      (ha : ¬ a.OpensAt o) (hc : ¬ b.Clears o.location op) :
      o ∈ b'.opened ↔ a.OpensAt o ∨ o ∈ b.opened ∧ ¬ b.Clears o.location op := by
    rw [e]
    exact ⟨fun ho => .inr ⟨ho, hc⟩, fun ho => (ho.resolve_left ha).1⟩
  have hcloses {a : Answer} {b' : Bus σ}
      (e : o ∈ b'.opened ↔ o ∈ b.opened ∧ ¬ b.Clears o.location op) (ha : ¬ a.OpensAt o) :
      o ∈ b'.opened ↔ a.OpensAt o ∨ o ∈ b.opened ∧ ¬ b.Clears o.location op :=
    e.trans ⟨.inr, fun ho => ho.resolve_left ha⟩
  have hopens {a : Answer} {b' : Bus σ} (e : o ∈ b'.opened ↔ a.OpensAt o ∨ o ∈ b.opened)
      (hc : ¬ b.Clears o.location op) :
      o ∈ b'.opened ↔ a.OpensAt o ∨ o ∈ b.opened ∧ ¬ b.Clears o.location op :=
    e.trans (or_congr_right ⟨fun ho => ⟨ho, hc⟩, And.left⟩)
  cases op with
  | attach d =>
    have hb : Lineup.Coherent (lineup { b with roster := b.roster.enroll d }) := by
      rw [lineup_enroll]
      exact h.enroll d.bearing (bearing?_nextKey b)
    exact hcloses (mem_opened_place host s hb _ _) id
  | reattach handle =>
    refine hcloses ?_ id
    show o ∈ (b.reattach host handle s).2.1.opened ↔ _
    unfold reattach
    split
    · rename_i hnone
      refine ⟨fun ho => ⟨ho, ?_⟩, And.left⟩
      rintro ⟨d, hd, -⟩
      exact nomatch hnone.symm.trans hd
    · rename_i d hd
      refine (mem_opened_place host s h _ _).trans (and_congr_right fun _ => not_congr ⟨?_, ?_⟩)
      · exact fun e => ⟨d, hd, e⟩
      · rintro ⟨d', hd', e⟩
        obtain rfl := Option.some.inj (hd.symm.trans hd')
        exact e
  | letGo handle =>
    exact hstays (opened_reap host (b := { b with held := b.held.erase handle.key }) s _) id id
  | openRecord record => exact hopens (mem_opened_openRecord host s h record) id
  | openByIds vendorId productId => exact hopens (mem_opened_openByIds host s h _ _) id
  | disconnect handle remove => exact hcloses (mem_opened_disconnectAt host s h _ remove) id
  | complete x => exact hcloses (mem_opened_complete host s h x) id
  | clear =>
    refine hcloses ?_ id
    rw [show (b.call host s .clear).2.1.opened = [] from
      (kept_clear host s Lineup.kept_coherent h).2]
    exact ⟨fun ho => (nomatch ho), fun ho => absurd trivial ho.2⟩
  | submitControl | submitInterrupt | submitIsochronous =>
    exact hstays (opened_of_lineup_eq (lineup_of_submits host s rfl)) id id
  | fail id' e =>
    refine hstays ?_ id id
    show (b.fail id' e).opened = b.opened
    unfold fail
    repeat' split
    all_goals rfl
  | pump | store => exact hstays rfl id id
  | _ => exact hstays (opened_of_lineup_eq (recast_call host b s (by trivial)).lineup) id id

/-! ## Finding what is open -/

section

variable {b : Bus σ} {handle : Handle}

theorem isOpen_iff {location : Location} :
    b.isOpen location = true ↔ ∃ a ∈ b.opened, a.location = location := by
  unfold isOpen
  rw [List.any_eq_true]
  exact exists_congr fun a => and_congr_right fun _ => beq_iff_eq

/-- What is open at the location of a handle is found through the handle, and it holds a host handle
if it stands for a device of the host. -/
theorem exists_openedDevice (h : b.lineup.Coherent) {a : Attachment} (ha : a ∈ b.opened)
    (hl : a.location = handle.location) : ∃ d, b.openedDevice handle = some (a.key, d) ∧
      (d.identity.IsPassthrough → d.hostHandle?.isSome = true) := by
  obtain ⟨x, hx, hready⟩ := h.ready a ha
  obtain ⟨d, hd, rfl⟩ := Option.map_eq_some_iff.1 hx
  refine ⟨d, ?_, hready⟩
  have hfound : attachmentAt b.opened handle.location = some a :=
    (attachmentAt_eq_some_iff h.opened).2 ⟨ha, hl⟩
  unfold openedDevice
  rw [hfound]
  show (b.roster.get? a.key).map _ = _
  rw [show b.roster.get? a.key = some d from hd]
  rfl

theorem openedDevice_eq_none_iff (h : b.lineup.Coherent) :
    b.openedDevice handle = none ↔ ∀ a ∈ b.opened, a.location ≠ handle.location := by
  constructor
  · intro hnone a ha hl
    obtain ⟨d, hd, -⟩ := exists_openedDevice h ha hl
    exact nomatch hnone.symm.trans hd
  · intro hfree
    unfold openedDevice
    cases hat : attachmentAt b.opened handle.location with
    | none => rfl
    | some a => exact absurd (mem_of_attachmentAt hat).2 (hfree a (mem_of_attachmentAt hat).1)

end

/-! ## While a device is open -/

def HasOpen (b : Bus σ) (key : DeviceKey) : Prop := ∃ a ∈ b.opened, a.key = key

/-- Whether a call closes the device of a handle: it closes or disconnects it through a handle,
reports it gone that had one of its transfers, attaches it once more or clears the bus. -/
def Closes (b : Bus σ) (h : Handle) : Operation σ → Prop
  | .disconnect h' _ => h'.location = h.location
  | .complete x => x.status = .noDevice ∧
    ∃ t, b.pool.get? x.id = some t ∧ awaitsHost t = true ∧ t.owner = some h.location
  | .reattach h' => h'.key = h.key
  | .clear => True
  | _ => False

variable {places : List Location} {handle : Handle}

theorem Settled.hasOpen_iff (h : b.Settled places)
    (hplace : places[handle.key.index]? = some handle.location) :
    b.HasOpen handle.key ↔ handle.attachment ∈ b.opened := by
  refine ⟨?_, fun ha => ⟨_, ha, rfl⟩⟩
  rintro ⟨⟨location, key⟩, ha, rfl⟩
  have hstanding := h.lineup.standing _ (h.lineup.known _ ha)
  obtain rfl := Option.some.inj (hstanding.symm.trans hplace)
  exact ha

/-- An open device is closed by what clears its location, if no two devices were attached for one
place. -/
theorem Settled.clears_iff (h : b.Settled places) {op : Operation σ}
    (hnodup : (places ++ op.place?.toList).Nodup)
    (hplace : places[handle.key.index]? = some handle.location)
    (hopen : handle.attachment ∈ b.opened) : b.Clears handle.location op ↔ b.Closes handle op := by
  cases op with
  | attach d =>
    refine iff_of_false ?_ id
    intro e
    change d.state.location = handle.location at e
    have hmem : handle.location ∈ places := List.mem_of_getElem? hplace
    exact (List.nodup_append.1 hnodup).2.2 _ hmem _ (List.mem_singleton_self _) e.symm
  | reattach handle' =>
    have hplaces : places.Nodup := (List.nodup_append.1 hnodup).1
    constructor
    · rintro ⟨d, hd, e⟩
      have hplace' := h.roster.place _ d hd
      rw [e] at hplace'
      exact ((h.lineup.eq_of_place hplaces (h.lineup.known _ hopen) hplace').1 rfl).symm
    · intro e
      obtain ⟨x, hx, -⟩ := h.lineup.ready _ hopen
      obtain ⟨d, hd, -⟩ := Option.map_eq_some_iff.1 hx
      have hplace' := h.roster.place _ d hd
      exact ⟨d, e ▸ hd, Option.some.inj (hplace'.symm.trans hplace)⟩
  | _ => exact Iff.rfl

/-- A device is open after a call if the call opened it, or if it was open before and the call does
not close it. -/
theorem hasOpen_call (h : b.Settled places) {op : Operation σ}
    (hnodup : (places ++ op.place?.toList).Nodup)
    (hplace : places[handle.key.index]? = some handle.location) :
    (b.call host s op).2.1.HasOpen handle.key ↔
      (b.call host s op).1.Opens handle.key ∨ b.HasOpen handle.key ∧ ¬ b.Closes handle op := by
  have hafter := settled_call host s h op
  have hplace' := getElem?_append_of_some hplace op.place?.toList
  have hopens : (b.call host s op).1.OpensAt handle.attachment ↔
      (b.call host s op).1.Opens handle.key := by
    have hmem (o) := (mem_opened_call host s h.lineup.toCoherent op (o := o)).2 ∘ Or.inl
    generalize (b.call host s op).1 = answer at hmem
    cases answer with
    | handle r =>
      cases r with
      | error => exact Iff.rfl
      | ok handle' =>
        refine ⟨congrArg Attachment.key, fun e => ?_⟩
        -- the handle names the place of its key, which is that of the device
        have hstanding := hafter.lineup.standing _ (hafter.lineup.known _ (hmem _ rfl))
        change (places ++ op.place?.toList)[handle'.key.index]? = some handle'.location at hstanding
        change handle'.key = handle.key at e
        rw [e] at hstanding
        have hlocation := Option.some.inj (hstanding.symm.trans hplace')
        show Attachment.mk _ _ = Attachment.mk _ _
        rw [hlocation, e]
    | _ => exact Iff.rfl
  rw [hafter.hasOpen_iff hplace', mem_opened_call host s h.lineup.toCoherent, hopens,
    h.hasOpen_iff hplace]
  refine or_congr_right (and_congr_right fun hopen => not_congr ?_)
  exact h.clears_iff hnodup hplace hopen

theorem not_opens_of_closes {op : Operation σ} (h : b.Closes handle op) (key : DeviceKey) :
    ¬ (b.call host s op).1.Opens key := by
  cases op with
  | disconnect | complete | reattach | clear => exact id
  | _ => exact h.elim

end Bus

/-! ## Runs -/

namespace Scene

variable {σ : Type} {host : Host σ} {allowed : Scene σ → Operation σ → Prop} {first c : Scene σ}
  {handle : Handle}

theorem nodup_of_after {op : Operation σ} (h : (c.after host op).past.places.Nodup) :
    (c.past.places ++ op.place?.toList).Nodup := by
  have hcons : (c.after host op).past.places = c.past.places ++ op.place?.toList :=
    Past.places_cons ..
  rwa [hcons] at h

/-- A device that was open is not open any more just if some call closed it and none has opened it
since. -/
theorem Reached.not_hasOpen_iff (h : Reached host allowed first c)
    (h0 : first.bus.Settled first.past.places) (hopen : first.bus.HasOpen handle.key)
    (hplace : first.past.places[handle.key.index]? = some handle.location)
    (hnodup : c.past.places.Nodup) :
    ¬ c.bus.HasOpen handle.key ↔ ∃ c' op, Reached host allowed first c' ∧ allowed c' op ∧
      c'.bus.Closes handle op ∧
      Reached host (fun c op => allowed c op ∧ ¬ (c.bus.call host c.world op).1.Opens handle.key)
        (c'.after host op) c := by
  have hplaced {c : Scene σ} (h : Reached host allowed first c) :
      c.past.places[handle.key.index]? = some handle.location := by
    obtain ⟨more, e⟩ := h.places
    rw [← e]
    exact getElem?_append_of_some hplace more
  have hstep {c : Scene σ} {op : Operation σ} (h : Reached host allowed first c)
      (hnodup : (c.after host op).past.places.Nodup) :=
    Bus.hasOpen_call host c.world (h.settled h0) (nodup_of_after hnodup) (hplaced h)
  constructor
  · intro hclosed
    induction h with
    | first => exact absurd hopen hclosed
    | @after c op hc hop ih =>
      obtain ⟨hnot, hclosed⟩ := not_or.1 (mt (hstep hc hnodup).2 hclosed)
      by_cases hcloses : c.bus.Closes handle op
      · exact ⟨c, op, hc, hop, hcloses, .first⟩
      · obtain ⟨c', op', hc', hop', hcloses', hrest⟩ :=
          ih ((List.nodup_append.1 (nodup_of_after hnodup)).1) fun ho => hclosed ⟨ho, hcloses⟩
        exact ⟨c', op', hc', hop', hcloses', hrest.after op ⟨hop, hnot⟩⟩
  · rintro ⟨c', op, hc', hop, hcloses, hrest⟩
    induction hrest with
    | first =>
      rw [show (c'.after host op).bus.HasOpen handle.key ↔ _ from hstep hc' hnodup]
      rintro (hopens | ⟨-, hnot⟩)
      · exact Bus.not_opens_of_closes host _ hcloses _ hopens
      · exact hnot hcloses
    | @after c op' hrest hop' ih =>
      have hc : Reached host allowed first c :=
        (hc'.after op hop).trans (hrest.mono fun _ _ => And.left)
      rw [show (c.after host op').bus.HasOpen handle.key ↔ _ from hstep hc hnodup]
      rintro (hopens | ⟨hbefore, -⟩)
      · exact hop'.2 hopens
      · exact ih hc (List.nodup_append.1 (nodup_of_after hnodup)).1 hbefore

end Scene

end VirtualUsb
