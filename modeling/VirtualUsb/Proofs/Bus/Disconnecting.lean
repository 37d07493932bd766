import VirtualUsb.Proofs.Bus.Departure
import VirtualUsb.Proofs.Bus.Opening
import VirtualUsb.Proofs.Device.Bracket

/-!
# Disconnecting again and in another order

What a disconnect does to a bus depends on the bus alone and not on what the host answers: the lists
lose what stands at the location (`Bus.closedAt`, `Bus.removedAt`), and at most one device is closed
or discarded (`Bus.disconnectAt_fst`). No two locations share a device, so two of them may be given
up in either order (`Bus.vacated_comm`), and one that was given up has nothing left to close
(`Bus.disconnectAt_disconnectAt`).
-/

namespace VirtualUsb

/-! ## Closed devices -/

/-- The device without what it holds open on the host. -/
def Passthrough.closed (p : Passthrough) : Passthrough :=
  match p.handle with
  | none => p
  | some _ => { p with handle := none, claimed := .empty }

namespace Device

variable {σ : Type}

/-- The device without what it holds open on the host, which only a passthrough device does. -/
def closed : Device σ → Device σ
  | passthrough p => passthrough p.closed
  | d => d

theorem close_fst (host : Host σ) (d : Device σ) (s : σ) : (d.close host s).1 = d.closed := by
  cases d with
  | passthrough p =>
    show passthrough (p.close host s).1 = passthrough p.closed
    unfold Passthrough.close Passthrough.closed
    cases p.handle <;> rfl
  | emulated | external => rfl

theorem hostHandle?_closed (d : Device σ) : d.closed.hostHandle? = none := by
  cases d with
  | passthrough p =>
    show p.closed.handle = none
    unfold Passthrough.closed
    split
    · assumption
    · rfl
  | emulated | external => rfl

end Device

namespace Bus

variable {σ : Type}

/-! ## Giving up a location -/

def closedAt (b : Bus σ) (location : Location) : Bus σ :=
  { b with
    opened := b.opened.filter fun a => !(a.location == location)
    roster := ⟨b.roster.entries.mapIdx fun i entry =>
      if ⟨location, ⟨i⟩⟩ ∈ b.opened then entry.map Device.closed else entry⟩ }

/-- The bus after the device at a location was taken off it. A device of which a guest has a handle
stays on the roster. -/
def removedAt (b : Bus σ) (location : Location) : Bus σ :=
  { b with
    attached := b.attached.filter fun a => !(a.location == location)
    roster := ⟨b.roster.entries.mapIdx fun i entry =>
      if ⟨location, ⟨i⟩⟩ ∈ b.attached ∧ ⟨i⟩ ∉ b.held then none else entry⟩ }

/-- The bus after the device at a location was closed and, if asked for, taken off it. -/
def vacated (b : Bus σ) (location : Location) (remove : Bool) : Bus σ :=
  if remove then (b.closedAt location).removedAt location else b.closedAt location

theorem ledger_vacated (b : Bus σ) (location : Location) (remove : Bool) :
    (b.vacated location remove).ledger = b.ledger := by
  unfold vacated
  split <;> rfl

theorem opened_vacated (b : Bus σ) (location : Location) (remove : Bool) :
    (b.vacated location remove).opened = b.opened.filter fun a => !(a.location == location) := by
  unfold vacated
  split <;> rfl

theorem attached_vacated (b : Bus σ) (location : Location) (remove : Bool) :
    (b.vacated location remove).attached =
      if remove then b.attached.filter fun a => !(a.location == location) else b.attached := by
  unfold vacated
  split <;> rfl

/-! ### Two locations -/

section

variable (b : Bus σ) {location location' : Location} (h : location ≠ location')

include h

/-- Whether a device stands at a location is the same after another one was left. -/
theorem mem_filter_location (l : List Attachment) (key : DeviceKey) :
    ⟨location', key⟩ ∈ (l.filter fun a => !(a.location == location)) ↔ ⟨location', key⟩ ∈ l := by
  rw [List.mem_filter, beq_eq_false_iff_ne.2 h.symm, Bool.not_false]
  exact and_iff_left rfl

theorem closedAt_comm :
    (b.closedAt location).closedAt location' = (b.closedAt location').closedAt location := by
  unfold closedAt
  congr 1
  · exact List.filter_comm ..
  · dsimp only
    simp only [Array.mapIdx_mapIdx, mem_filter_location h, mem_filter_location h.symm]
    congr 2
    funext i entry
    -- a device that were open at both would be closed twice either way
    by_cases hi : ⟨location, ⟨i⟩⟩ ∈ b.opened
    · by_cases hi' : ⟨location', ⟨i⟩⟩ ∈ b.opened
      · simp only [Function.comp, if_pos hi, if_pos hi']
      · simp only [Function.comp, if_pos hi, if_neg hi']
    · simp only [Function.comp, if_neg hi]

theorem removedAt_comm :
    (b.removedAt location).removedAt location' = (b.removedAt location').removedAt location := by
  unfold removedAt
  congr 1
  · exact List.filter_comm ..
  · dsimp only
    simp only [Array.mapIdx_mapIdx, mem_filter_location h, mem_filter_location h.symm]
    congr 2
    funext i entry
    by_cases hi : ⟨location, ⟨i⟩⟩ ∈ b.attached ∧ ⟨i⟩ ∉ b.held
    · simp only [Function.comp, if_pos hi, ite_self]
    · simp only [Function.comp, if_neg hi]

omit h in
theorem closedAt_removedAt (location location' : Location) :
    (b.removedAt location').closedAt location = (b.closedAt location).removedAt location' := by
  unfold removedAt closedAt
  congr 2
  dsimp only
  simp only [Array.mapIdx_mapIdx]
  congr 1
  funext i entry
  by_cases hi : ⟨location', ⟨i⟩⟩ ∈ b.attached ∧ ⟨i⟩ ∉ b.held
  · simp only [Function.comp, if_pos hi, Option.map_none, ite_self]
  · simp only [Function.comp, if_neg hi]

theorem vacated_comm (remove remove' : Bool) :
    (b.vacated location remove).vacated location' remove' =
      (b.vacated location' remove').vacated location remove := by
  unfold vacated
  cases remove <;> cases remove'
  · exact closedAt_comm b h
  · show ((b.closedAt location).closedAt location').removedAt location' = _
    rw [closedAt_comm b h, ← closedAt_removedAt]
    rfl
  · show ((b.closedAt location).removedAt location).closedAt location' = _
    rw [closedAt_removedAt, closedAt_comm b h]
    rfl
  · show (((b.closedAt location).removedAt location).closedAt location').removedAt location' = _
    rw [closedAt_removedAt, removedAt_comm _ h, closedAt_comm b h, ← closedAt_removedAt]
    rfl

end

/-! ### What a disconnect does -/

section

variable {b : Bus σ} (host : Host σ) (s : σ) (h : b.lineup.Coherent) (location : Location)

theorem removeAt_of_free (hfree : ∀ a ∈ b.attached, a.location ≠ location) :
    b.removeAt host location s = (b, s) := by
  unfold removeAt
  cases ha : attachmentAt b.attached location with
  | none => rfl
  | some a =>
    obtain ⟨hmem, hl⟩ := mem_of_attachmentAt ha
    exact absurd hl (hfree a hmem)

theorem mem_iff_of_location {l : List Attachment} (hl : (l.map (·.location)).Nodup)
    {a : Attachment} (ha : a ∈ l) (i : Nat) :
    ⟨a.location, ⟨i⟩⟩ ∈ l ↔ a.key.index = i := by
  constructor
  · intro hi
    have hsame : a = ⟨a.location, ⟨i⟩⟩ := List.inj_on_of_nodup_map hl ha hi rfl
    exact congrArg (fun x : Attachment => x.key.index) hsame
  · rintro rfl
    exact ha

/-- Nothing is changed on a roster whose devices do not meet a condition. -/
theorem mapIdx_of_not {α : Type} (xs : Array α) {p : Nat → Prop} [DecidablePred p] (f : α → α)
    (hp : ∀ i, ¬ p i) : xs.mapIdx (fun i x => if p i then f x else x) = xs := by
  apply Array.ext_getElem?
  intro i
  rw [Array.getElem?_mapIdx]
  simp only [if_neg (hp i), Option.map_id_fun', id_eq]

/-- A change of the one entry that meets a condition. -/
theorem mapIdx_of_iff {α : Type} (xs : Array α) {p : Nat → Prop} [DecidablePred p] (f : α → α)
    {k : Nat} {y : α} (hp : ∀ i, p i ↔ k = i) (hy : ∀ x, xs[k]? = some x → f x = y) :
    xs.mapIdx (fun i x => if p i then f x else x) = xs.setIfInBounds k y := by
  apply Array.ext_getElem?
  intro i
  rw [Array.getElem?_mapIdx, Array.getElem?_setIfInBounds]
  by_cases hi : k = i
  · subst hi
    simp only [if_pos ((hp k).2 rfl), if_true]
    cases hx : xs[k]? with
    | none => rw [if_neg (Nat.not_lt.2 (Array.getElem?_eq_none_iff.1 hx)), Option.map_none]
    | some x => rw [if_pos (Array.getElem?_eq_some_iff.1 hx).1, Option.map_some, hy x hx]
  · simp only [if_neg fun h => hi ((hp i).1 h), if_neg hi, Option.map_id_fun', id_eq]

theorem retire_of_get?_eq_none {r : Roster σ} {key : DeviceKey} (hkey : r.get? key = none) :
    r.retire key = r := by
  have hentries : r.entries.setIfInBounds key.index none = r.entries := by
    apply Array.ext_getElem?
    intro i
    rw [Array.getElem?_setIfInBounds]
    by_cases hi : key.index = i
    · subst hi
      rw [if_pos rfl]
      unfold Roster.get? at hkey
      cases hx : r.entries[key.index]? with
      | none => rw [if_neg (Nat.not_lt.2 (Array.getElem?_eq_none_iff.1 hx))]
      | some entry =>
        rw [hx] at hkey
        rw [if_pos (Array.getElem?_eq_some_iff.1 hx).1, show entry = none from hkey]
    · rw [if_neg hi]
  unfold Roster.retire
  rw [hentries]

theorem reap_fst (key : DeviceKey) : (b.reap host key s).1 =
    if b.refersTo key then b else { b with roster := b.roster.retire key } := by
  unfold reap
  split
  · rfl
  · split
    · rename_i hnone
      rw [retire_of_get?_eq_none hnone]
    · rfl

include h

theorem closeAt_fst : (b.closeAt host location s).1 = b.closedAt location := by
  rcases closeAt_cases host s h location with ⟨hfree, e⟩ | ⟨a, ha, rfl, d, hd, e⟩
  · have hnot (i : Nat) : ⟨location, ⟨i⟩⟩ ∉ b.opened := fun hi => hfree _ hi rfl
    rw [e]
    unfold closedAt
    rw [← filter_eq_self_of_free hfree, mapIdx_of_not b.roster.entries (Option.map Device.closed) hnot]
  · have hentry (entry : Option (Device σ)) (he : b.roster.entries[a.key.index]? = some entry) :
        entry.map Device.closed = some d.closed := by
      rw [show entry = some d from Option.some.inj (he.symm.trans (Option.join_eq_some_iff.1 hd))]
      rfl
    have hlist : (b.opened.map (·.location)).Nodup := h.opened
    rw [e, withoutLocation_eq_filter hlist, d.close_fst]
    unfold closedAt Roster.set
    rw [mapIdx_of_iff b.roster.entries (Option.map Device.closed) (mem_iff_of_location hlist ha)
      hentry]

/-- Once a device is closed and taken off the bus, only a handle still refers to it. -/
theorem refersTo_without {a : Attachment} (ha : a ∈ b.attached)
    (hopen : ∀ o ∈ b.opened, o.location ≠ a.location) :
    refersTo { b with attached := withoutLocation b.attached a.location } a.key =
      b.held.contains a.key := by
  have hattached : (withoutLocation b.attached a.location).any (·.key == a.key) = false := by
    rw [List.any_eq_false]
    intro a' ha' hk
    obtain ⟨hmem, hne⟩ := (mem_withoutLocation h.attached).1 ha'
    exact hne (congrArg _ (h.single a' hmem a ha (beq_iff_eq.1 hk)))
  have hopened : b.opened.any (·.key == a.key) = false := by
    rw [List.any_eq_false]
    intro o ho hk
    exact hopen o ho (congrArg _ (h.single o (h.known o ho) a ha (beq_iff_eq.1 hk)))
  unfold refersTo
  rw [hattached, hopened, Bool.false_or, Bool.false_or]

theorem removeAt_fst (hopen : ∀ o ∈ b.opened, o.location ≠ location) :
    (b.removeAt host location s).1 = b.removedAt location := by
  cases hat : attachmentAt b.attached location with
  | none =>
    have hfree := ne_of_attachmentAt_eq_none hat
    have hnot (i : Nat) : ¬ (⟨location, ⟨i⟩⟩ ∈ b.attached ∧ ⟨i⟩ ∉ b.held) :=
      fun hi => hfree _ hi.1 rfl
    rw [removeAt_of_free host s location hfree]
    unfold removedAt
    rw [← filter_eq_self_of_free hfree, mapIdx_of_not b.roster.entries (fun _ => none) hnot]
  | some a =>
    obtain ⟨ha, rfl⟩ := mem_of_attachmentAt hat
    have hlist : (b.attached.map (·.location)).Nodup := h.attached
    have hindex := mem_iff_of_location hlist ha
    unfold removeAt removedAt
    rw [hat]
    dsimp only
    rw [reap_fst, refersTo_without h ha hopen, withoutLocation_eq_filter hlist]
    by_cases hheld : a.key ∈ b.held
    · have hnot (i : Nat) : ¬ (⟨a.location, ⟨i⟩⟩ ∈ b.attached ∧ ⟨i⟩ ∉ b.held) := by
        rintro ⟨hi, hfree⟩
        obtain rfl := (hindex i).1 hi
        exact hfree hheld
      rw [if_pos (List.contains_iff_mem.2 hheld),
        mapIdx_of_not b.roster.entries (fun _ => none) hnot]
    · have hiff (i : Nat) : ⟨a.location, ⟨i⟩⟩ ∈ b.attached ∧ ⟨i⟩ ∉ b.held ↔ a.key.index = i := by
        rw [← hindex i]
        refine and_iff_left_of_imp fun hi => ?_
        obtain rfl := (hindex i).1 hi
        exact hheld
      rw [if_neg fun hc => hheld (List.contains_iff_mem.1 hc),
        mapIdx_of_iff b.roster.entries (fun _ => none) hiff fun _ _ => rfl]
      rfl

theorem disconnectAt_fst (remove : Bool) :
    (b.disconnectAt host location remove s).1 = b.vacated location remove := by
  have hclosed := closeAt_fst host s h location
  unfold disconnectAt vacated
  dsimp only
  cases remove with
  | false => exact hclosed
  | true =>
    have hopen : ∀ o ∈ (b.closeAt host location s).1.opened, o.location ≠ location :=
      fun o ho => ((mem_opened_closeAt host s h).1 ho).2
    rw [if_pos rfl, if_pos rfl, removeAt_fst host _ (coherent_closeAt host s h location) location
      hopen, hclosed]

theorem disconnectAt_comm {location' : Location} (hne : location ≠ location')
    (remove remove' : Bool) :
    let r := b.disconnectAt host location remove s
    let r' := b.disconnectAt host location' remove' s
    (r.1.disconnectAt host location' remove' r.2).1 =
      (r'.1.disconnectAt host location remove r'.2).1 := by
  intro r r'
  have hr : r.1 = b.vacated location remove := disconnectAt_fst host s h location remove
  have hr' : r'.1 = b.vacated location' remove' := disconnectAt_fst host s h location' remove'
  have hkept : r.1.lineup.Coherent :=
    kept_disconnectAt host s Lineup.kept_coherent h location remove
  have hkept' : r'.1.lineup.Coherent :=
    kept_disconnectAt host s Lineup.kept_coherent h location' remove'
  calc (r.1.disconnectAt host location' remove' r.2).1
      = (b.vacated location remove).vacated location' remove' := by
        rw [disconnectAt_fst host r.2 hkept, hr]
    _ = (b.vacated location' remove').vacated location remove := vacated_comm b hne remove remove'
    _ = (r'.1.disconnectAt host location remove r'.2).1 := by
        rw [disconnectAt_fst host r'.2 hkept', hr']

/-- A location that was given up has nothing left to give up. -/
theorem disconnectAt_disconnectAt (remove : Bool) :
    let r := b.disconnectAt host location remove s
    r.1.disconnectAt host location remove r.2 = r := by
  intro r
  have hopened : ∀ o ∈ r.1.opened, o.location ≠ location :=
    fun o ho => Ne.symm ((mem_opened_disconnectAt host s h location remove).1 ho).2
  unfold disconnectAt
  rw [closeAt_of_free host r.2 hopened]
  cases hr : remove with
  | false => rfl
  | true =>
    have hattached : ∀ a ∈ r.1.attached, a.location ≠ location := by
      intro a ha
      subst hr
      exact ((mem_attached_disconnectAt host s h).1 ha).2
    exact removeAt_of_free host r.2 location hattached

/-- A device that was closed before is taken off the bus all the same. -/
theorem disconnectAt_closeAt :
    let r := b.closeAt host location s
    r.1.disconnectAt host location true r.2 = b.disconnectAt host location true s := by
  intro r
  have hopened : ∀ o ∈ r.1.opened, o.location ≠ location :=
    fun o ho => ((mem_opened_closeAt host s h).1 ho).2
  unfold disconnectAt
  rw [closeAt_of_free host r.2 hopened]

end

end Bus

/-! ## How often a device is closed -/

/-- How many handles were closed. -/
def HostLog.closes (log : HostLog) : Nat := log.countP (·.closed?.isSome)

section

variable {σ : Type} (host : Host σ)

theorem Passthrough.closes_close (p : Passthrough) (s : σ × HostLog) :
    (p.close host.logged s).2.2.closes = s.2.closes + if p.handle.isSome then 1 else 0 := by
  unfold close
  cases p.handle with
  | none => rfl
  | some handle =>
    obtain ⟨row, hrow, hreleases, -⟩ := log_notingAll host handle p.claimed.toList s
    have hsteady : HostLog.closes row = 0 := by
      refine List.countP_eq_zero.2 fun x hx => ?_
      obtain ⟨i, a, rfl⟩ := hreleases x hx
      exact Bool.false_ne_true
    show HostLog.closes (.closeHandle handle :: (releaseAll host.logged handle _ s).2) = _
    rw [hrow]
    unfold HostLog.closes at hsteady ⊢
    rw [List.countP_cons, List.countP_append, hsteady]
    simp [HostCall.closed?]

namespace Device

variable (d : Device (σ × HostLog)) (s : σ × HostLog)

theorem closes_close : (d.close host.logged s).2.2.closes =
    s.2.closes + if d.hostHandle?.isSome then 1 else 0 := by
  cases d with
  | passthrough p => exact p.closes_close host s
  | emulated | external => rfl

theorem closes_discard : (d.discard host.logged s).2.closes =
    s.2.closes + if d.hostHandle?.isSome then 1 else 0 := by
  cases d with
  | passthrough p => exact p.closes_close host s
  | emulated | external => rfl

end Device

namespace Bus

variable {b : Bus (σ × HostLog)} (s : σ × HostLog)

/-- A device that is let go of is closed if it was not before. -/
theorem closes_reap (key : DeviceKey) :
    (b.reap host.logged key s).2.2.closes ≤ s.2.closes + 1 ∧
      ((∀ d, b.roster.get? key = some d → d.hostHandle? = none) →
        (b.reap host.logged key s).2.2.closes = s.2.closes) := by
  unfold reap
  split
  · exact ⟨Nat.le_succ _, fun _ => rfl⟩
  · split
    · exact ⟨Nat.le_succ _, fun _ => rfl⟩
    · rename_i d hd
      have hdiscard := d.closes_discard host s
      refine ⟨?_, fun hnone => ?_⟩
      · rw [hdiscard]
        split <;> omega
      · rw [hdiscard, hnone d hd]
        rfl

theorem closes_removeAt (location : Location) :
    (b.removeAt host.logged location s).2.2.closes ≤ s.2.closes + 1 ∧
      ((∀ a ∈ b.attached, a.location = location → ∀ d, b.roster.get? a.key = some d →
          d.hostHandle? = none) →
        (b.removeAt host.logged location s).2.2.closes = s.2.closes) := by
  unfold removeAt
  cases hat : attachmentAt b.attached location with
  | none => exact ⟨Nat.le_succ _, fun _ => rfl⟩
  | some a =>
    obtain ⟨ha, hl⟩ := mem_of_attachmentAt hat
    obtain ⟨hle, heq⟩ := closes_reap host
      (b := { b with attached := withoutLocation b.attached location }) s a.key
    exact ⟨hle, fun hnone => heq (hnone a ha hl)⟩

variable (h : b.lineup.Coherent) (location : Location)

include h

theorem closes_disconnectAt (remove : Bool) :
    (b.disconnectAt host.logged location remove s).2.2.closes ≤ s.2.closes + 1 := by
  unfold disconnectAt
  dsimp only
  by_cases hfree : ∀ o ∈ b.opened, o.location ≠ location
  · -- nothing is closed but what may be let go of
    rw [closeAt_of_free host.logged s hfree]
    cases remove with
    | false => exact Nat.le_succ _
    | true => exact (closes_removeAt host s location).1
  · obtain ⟨a, hfree⟩ := not_forall.1 hfree
    obtain ⟨ha, hl⟩ := Classical.not_imp.1 hfree
    obtain rfl := not_not.1 hl
    obtain ⟨d, hd, hclose⟩ := closeAt_of_mem host.logged s h ha
    have hcloses : (b.closeAt host.logged a.location s).2.2.closes ≤ s.2.closes + 1 := by
      rw [hclose]
      dsimp only
      rw [d.closes_close host s]
      split <;> omega
    cases remove with
    | false => exact hcloses
    | true =>
      -- what stands there is the device that was just closed
      have hdevice : ∀ a' ∈ (b.closeAt host.logged a.location s).1.attached,
          a'.location = a.location → ∀ d',
            (b.closeAt host.logged a.location s).1.roster.get? a'.key = some d' →
              d'.hostHandle? = none := by
        rw [hclose]
        intro a' ha' hl' d' hd'
        obtain rfl := h.eq_of_location ha' (h.known a ha) hl'
        have hset := (Roster.get?_set_of_get? hd (d.close host.logged s).1 a'.key).trans (if_pos rfl)
        rw [← Option.some.inj (hset.symm.trans hd'), d.close_fst]
        exact d.hostHandle?_closed
      rw [if_pos rfl, (closes_removeAt host _ a.location).2 hdevice]
      exact hcloses

end Bus

end

namespace Scene

variable {σ : Type} {host : Host σ} {allowed : Scene (σ × HostLog) → Operation (σ × HostLog) → Prop}

/-- **Disconnecting again and in another order.** Whatever calls were made of a new bus: giving up a
location a second time changes nothing and calls nothing of the host, and no more than one handle is
closed for both. It does not matter whether a device was closed before it is taken off the bus. If
two handles have different locations, either may be given up first, and the bus is the same. What
leaves the lists is what stands at the location; all else keeps its order, and the transfers are as
they were. -/
theorem disconnect_of_reached {n : Nat} {latency : UInt64} {memory : Memory} {world : σ}
    {c : Scene (σ × HostLog)}
    (h : Reached host.logged allowed ⟨Bus.empty n latency memory, (world, []), []⟩ c) :
    (∀ handle remove,
      let once := c.bus.disconnect host.logged handle remove c.world
      let twice := once.1.disconnect host.logged handle remove once.2
      twice = once ∧ twice.2.2.closes ≤ c.world.2.closes + 1) ∧
    (∀ handle,
      let closed := c.bus.close host.logged handle c.world
      closed.1.disconnect host.logged handle true closed.2 =
        c.bus.disconnect host.logged handle true c.world) ∧
    (∀ handle handle' : Handle, handle.location ≠ handle'.location → ∀ remove remove',
      let first := c.bus.disconnect host.logged handle remove c.world
      let first' := c.bus.disconnect host.logged handle' remove' c.world
      (first.1.disconnect host.logged handle' remove' first.2).1 =
        (first'.1.disconnect host.logged handle remove first'.2).1) ∧
    (∀ handle remove,
      let bus := (c.bus.disconnect host.logged handle remove c.world).1
      bus.attached =
        (if remove then c.bus.attached.filter (!·.location == handle.location)
          else c.bus.attached) ∧
      bus.opened = c.bus.opened.filter (!·.location == handle.location) ∧
      bus.ledger = c.bus.ledger) := by
  have hcoherent := (h.settled (Bus.settled_empty n latency memory)).lineup.toCoherent
  refine ⟨fun handle remove => ?_, fun handle => ?_, fun handle handle' hne remove remove' => ?_,
    fun handle remove => ?_⟩
  · intro once twice
    have htwice : twice = once :=
      Bus.disconnectAt_disconnectAt host.logged c.world hcoherent handle.location remove
    refine ⟨htwice, ?_⟩
    rw [htwice]
    exact Bus.closes_disconnectAt host c.world hcoherent handle.location remove
  · exact Bus.disconnectAt_closeAt host.logged c.world hcoherent handle.location
  · exact Bus.disconnectAt_comm host.logged c.world hcoherent handle.location hne remove remove'
  · intro bus
    have hbus : bus = c.bus.vacated handle.location remove :=
      Bus.disconnectAt_fst host.logged c.world hcoherent handle.location remove
    rw [hbus]
    exact ⟨c.bus.attached_vacated _ _, c.bus.opened_vacated _ _, c.bus.ledger_vacated _ _⟩

/-! ### Two devices of one host -/

/-- A bus with two devices of the host, both of them open. -/
def paired : Scene (Unit × HostLog) :=
  ((((Scene.mk (Bus.empty 2 0 (.blank 16)) ((), []) []).after Host.obliging.logged
    (.attach (.passthrough (standing 1)))).after Host.obliging.logged
    (.attach (.passthrough (standing 2)))).after Host.obliging.logged
    (.openRecord { (default : DeviceRecord) with location := .ofIndex 1 })).after
    Host.obliging.logged (.openRecord { (default : DeviceRecord) with location := .ofIndex 2 })

/-- The first of them is taken off the bus and the second is closed, whichever comes first. -/
theorem disconnect_of_paired :
    let handle : Handle := ⟨⟨0⟩, .ofIndex 1, 1⟩
    let handle' : Handle := ⟨⟨1⟩, .ofIndex 2, 2⟩
    let first := paired.bus.disconnect Host.obliging.logged handle true paired.world
    let first' := paired.bus.disconnect Host.obliging.logged handle' false paired.world
    let b := (first.1.disconnect Host.obliging.logged handle' false first.2).1
    paired.bus.opened = [⟨.ofIndex 1, ⟨0⟩⟩, ⟨.ofIndex 2, ⟨1⟩⟩] ∧
      b.attached = [⟨.ofIndex 2, ⟨1⟩⟩] ∧ b.opened = [] ∧
      b = (first'.1.disconnect Host.obliging.logged handle true first'.2).1 := by
  intro handle handle' first first' b
  have h : Reached Host.obliging.logged (fun _ _ => True)
      ⟨Bus.empty 2 0 (.blank 16), ((), []), []⟩ paired :=
    (((Reached.first.after _ trivial).after _ trivial).after _ trivial).after _ trivial
  obtain ⟨-, -, hcomm, -⟩ := disconnect_of_reached h
  have hne : handle.location ≠ handle'.location := by decide
  exact ⟨rfl, rfl, rfl, hcomm handle handle' hne true false⟩

end Scene

end VirtualUsb
