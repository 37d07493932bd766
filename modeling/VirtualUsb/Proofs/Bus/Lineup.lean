import Mathlib.Data.List.Nodup
import VirtualUsb.Proofs.Bus.Effect

/-!
# Sound lineups

A bus keeps two lists of attachments, of the devices that stand on it and of those that are open,
and passthrough devices keep a host handle of their own. `Lineup.Coherent` says how the three agree
whatever calls are made, `Lineup.Sound` how they agree if devices come to the bus closed. Both are
kept when one device is opened, closed, placed or removed, and when one that is on no list comes or
is discarded.
-/

namespace VirtualUsb

/-! ## Lists of attachments -/

namespace Bus

theorem mem_of_attachmentAt {l : List Attachment} {location : Location} {a : Attachment}
    (h : attachmentAt l location = some a) : a ∈ l ∧ a.location = location :=
  ⟨List.mem_of_find?_eq_some h, by simpa using List.find?_some h⟩

theorem ne_of_attachmentAt_eq_none {l : List Attachment} {location : Location}
    (h : attachmentAt l location = none) : ∀ a ∈ l, a.location ≠ location := by
  intro a ha e
  exact List.find?_eq_none.1 h a ha (beq_iff_eq.2 e)

theorem attachmentAt_eq_some_iff {l : List Attachment} (h : (l.map (·.location)).Nodup)
    {location : Location} {a : Attachment} :
    attachmentAt l location = some a ↔ a ∈ l ∧ a.location = location := by
  refine ⟨mem_of_attachmentAt, ?_⟩
  rintro ⟨ha, rfl⟩
  cases hat : attachmentAt l a.location with
  | none => exact absurd rfl (ne_of_attachmentAt_eq_none hat a ha)
  | some a' =>
    obtain ⟨ha', hl⟩ := mem_of_attachmentAt hat
    rw [List.inj_on_of_nodup_map h ha' ha hl]

theorem nodup_withoutLocation {l : List Attachment} (h : (l.map (·.location)).Nodup)
    (location : Location) : ((withoutLocation l location).map (·.location)).Nodup :=
  h.sublist (List.eraseP_sublist.map _)

theorem mem_withoutLocation {l : List Attachment} (h : (l.map (·.location)).Nodup)
    {location : Location} {a : Attachment} :
    a ∈ withoutLocation l location ↔ a ∈ l ∧ a.location ≠ location := by
  unfold withoutLocation
  induction l with
  | nil => simp
  | cons x rest ih =>
    obtain ⟨hx, hrest⟩ := List.nodup_cons.1 h
    by_cases hl : x.location = location
    · -- no other entry has the location of the one erased
      have hne : a ∈ rest → a.location ≠ location := by
        rintro ha rfl
        exact hx (List.mem_map.2 ⟨a, ha, hl.symm⟩)
      rw [List.eraseP_cons, beq_iff_eq.2 hl, cond_true, List.mem_cons]
      constructor
      · exact fun ha => ⟨.inr ha, hne ha⟩
      · rintro ⟨rfl | ha, hal⟩
        · exact absurd hl hal
        · exact ha
    · rw [List.eraseP_cons, beq_eq_false_iff_ne.2 hl, cond_false, List.mem_cons, List.mem_cons,
        ih hrest]
      constructor
      · rintro (rfl | ⟨ha, hal⟩)
        · exact ⟨.inl rfl, hl⟩
        · exact ⟨.inr ha, hal⟩
      · rintro ⟨rfl | ha, hal⟩
        · exact .inl rfl
        · exact .inr ⟨ha, hal⟩

end Bus

/-! ## Lineups -/

namespace Lineup

/-- Whether the lists are without two devices at one location and without one device at two, only
devices on the bus are open, and these are still there and hold a host handle if they stand for a
device of the host. -/
structure Coherent (l : Lineup) : Prop where
  attached : (l.attached.map (·.location)).Nodup
  opened : (l.opened.map (·.location)).Nodup
  known : ∀ a ∈ l.opened, a ∈ l.attached
  single : ∀ a ∈ l.attached, ∀ a' ∈ l.attached, a.key = a'.key → a = a'
  ready : ∀ a ∈ l.opened, ∃ x, l.bearing? a.key = some x ∧
    (x.identity.IsPassthrough → x.handle.isSome = true)

/-- Whether the lists are coherent, each device on the bus stands at the place that it is made for,
and none that is closed holds a host handle. -/
structure Sound (l : Lineup) : Prop extends Coherent l where
  enrolled : ∀ a ∈ l.attached, ∃ x, l.bearing? a.key = some x ∧ x.identity.location = a.location
  closed : ∀ key x, l.bearing? key = some x → x.identity.IsPassthrough →
    x.handle.isSome = true → ∃ a ∈ l.opened, a.key = key

open Bus (withoutLocation mem_withoutLocation nodup_withoutLocation)

namespace Coherent

variable {l : Lineup} (h : l.Coherent)

include h

theorem eq_of_location {a a' : Attachment} (ha : a ∈ l.attached) (ha' : a' ∈ l.attached)
    (e : a.location = a'.location) : a = a' := List.inj_on_of_nodup_map h.attached ha ha' e

/-- An open device keeps its bearing when that of another one changes. -/
theorem ready_update {key : DeviceKey} {x : Option Bearing} {o : Attachment} (ho : o ∈ l.opened)
    (hne : key ≠ o.key) : ∃ y, (l.update key x).bearing? o.key = some y ∧
      (y.identity.IsPassthrough → y.handle.isSome = true) := by
  obtain ⟨y, hy, hp⟩ := h.ready o ho
  exact ⟨y, (if_neg hne).trans hy, hp⟩

theorem close {a : Attachment} (ha : a ∈ l.opened) (x : Option Bearing) :
    Coherent { l.update a.key x with opened := withoutLocation l.opened a.location } where
  attached := h.attached
  opened := nodup_withoutLocation h.opened _
  known o ho := h.known o ((mem_withoutLocation h.opened).1 ho).1
  single := h.single
  ready o ho := by
    obtain ⟨ho, hne⟩ := (mem_withoutLocation h.opened).1 ho
    refine h.ready_update ho fun e => hne ?_
    rw [h.single a (h.known a ha) o (h.known o ho) e]

theorem remove {location : Location} (hopen : ∀ o ∈ l.opened, o.location ≠ location) :
    Coherent { l with attached := withoutLocation l.attached location } where
  attached := nodup_withoutLocation h.attached _
  opened := h.opened
  known o ho := (mem_withoutLocation h.attached).2 ⟨h.known o ho, hopen o ho⟩
  single a ha a' ha' := h.single a ((mem_withoutLocation h.attached).1 ha).1 a'
    ((mem_withoutLocation h.attached).1 ha').1
  ready := h.ready

theorem retire {key : DeviceKey} (hkey : ∀ a ∈ l.attached, a.key ≠ key) :
    (l.update key none).Coherent where
  attached := h.attached
  opened := h.opened
  known := h.known
  single := h.single
  ready o ho := h.ready_update ho fun e => hkey o (h.known o ho) e.symm

theorem place {location : Location} {key : DeviceKey}
    (hfree : ∀ a ∈ l.attached, a.location ≠ location) (hkey : ∀ a ∈ l.attached, a.key ≠ key) :
    Coherent { l with attached := l.attached ++ [⟨location, key⟩] } where
  attached := by
    rw [List.map_append, List.nodup_append']
    refine ⟨h.attached, List.nodup_singleton _, fun k hk hk' => ?_⟩
    obtain ⟨a, ha, rfl⟩ := List.mem_map.1 hk
    exact hfree a ha (List.mem_singleton.1 hk')
  opened := h.opened
  known o ho := List.mem_append_left _ (h.known o ho)
  single a ha a' ha' e := by
    rcases List.mem_append.1 ha with ha | ha <;> rcases List.mem_append.1 ha' with ha' | ha'
    · exact h.single a ha a' ha' e
    · obtain rfl := List.mem_singleton.1 ha'
      exact absurd e (hkey a ha)
    · obtain rfl := List.mem_singleton.1 ha
      exact absurd e.symm (hkey a' ha')
    · exact (List.mem_singleton.1 ha).trans (List.mem_singleton.1 ha').symm
  ready := h.ready

/-- A new device may come. -/
theorem enroll {key : DeviceKey} (x : Bearing) (hnew : l.bearing? key = none) :
    (l.update key (some x)).Coherent where
  attached := h.attached
  opened := h.opened
  known := h.known
  single := h.single
  ready o ho := by
    refine h.ready_update ho ?_
    rintro rfl
    obtain ⟨y, hy, -⟩ := h.ready o ho
    exact nomatch hnew.symm.trans hy

/-- The devices that are open once one has been noted as open. -/
theorem mem_noteOpen {a o : Attachment} (ha : a ∈ l.attached) :
    o ∈ (if l.opened.any (·.location == a.location) then l.opened else l.opened ++ [a]) ↔
      o ∈ l.opened ∨ o = a := by
  split
  · -- an open device at the location is this one
    rename_i hany
    obtain ⟨o', ho', e⟩ := List.any_eq_true.1 hany
    obtain rfl := h.eq_of_location (h.known o' ho') ha (eq_of_beq e)
    exact ⟨.inl, fun ho => ho.elim id fun e => e ▸ ho'⟩
  · rw [List.mem_append, List.mem_singleton]

/-- A device on the bus may be opened, and may be so already. -/
theorem noteOpen {a : Attachment} {y : Bearing} (ha : a ∈ l.attached)
    (hy : y.identity.IsPassthrough → y.handle.isSome = true) :
    Coherent { l.update a.key (some y) with
      opened :=
        if l.opened.any (·.location == a.location) then l.opened else l.opened ++ [a] } := by
  refine ⟨h.attached, ?_, fun o ho => ?_, h.single, fun o ho => ?_⟩
  · split
    · exact h.opened
    · rename_i hany
      rw [List.map_append, List.nodup_append']
      refine ⟨h.opened, List.nodup_singleton _, fun k hk hk' => hany ?_⟩
      obtain ⟨o, ho, rfl⟩ := List.mem_map.1 hk
      exact List.any_eq_true.2 ⟨o, ho, beq_iff_eq.2 (List.mem_singleton.1 hk')⟩
  · rcases (h.mem_noteOpen ha).1 ho with ho | rfl
    · exact h.known o ho
    · exact ha
  · by_cases e : a.key = o.key
    · exact ⟨y, if_pos e, hy⟩
    · refine h.ready_update (((h.mem_noteOpen ha).1 ho).resolve_right ?_) e
      rintro rfl
      exact e rfl

end Coherent

namespace Sound

variable {l : Lineup} (h : l.Sound)

include h

theorem handles {key : DeviceKey} {x : Bearing} (hx : l.bearing? key = some x)
    (hp : x.identity.IsPassthrough) :
    x.handle.isSome = true ↔ ∃ a ∈ l.opened, a.key = key := by
  refine ⟨h.closed key x hx hp, ?_⟩
  rintro ⟨a, ha, rfl⟩
  obtain ⟨y, hy, hsome⟩ := h.ready a ha
  obtain rfl := Option.some.inj (hx.symm.trans hy)
  exact hsome hp

theorem close {a : Attachment} {x : Bearing} (ha : a ∈ l.opened)
    (hx : l.bearing? a.key = some x) :
    Sound { l.update a.key (some ⟨x.identity, none⟩) with
      opened := withoutLocation l.opened a.location } where
  toCoherent := h.toCoherent.close ha _
  enrolled o ho := by
    obtain ⟨y, hy, hl⟩ := h.enrolled o ho
    by_cases e : a.key = o.key
    · obtain rfl := Option.some.inj (hx.symm.trans ((congrArg l.bearing? e).trans hy))
      exact ⟨_, if_pos e, hl⟩
    · exact ⟨y, (if_neg e).trans hy, hl⟩
  closed key y hy hp hs := by
    by_cases e : a.key = key
    · obtain rfl := Option.some.inj ((if_pos e).symm.trans hy)
      exact nomatch hs
    · obtain ⟨o, ho, rfl⟩ := h.closed key y ((if_neg e).symm.trans hy) hp hs
      refine ⟨o, (mem_withoutLocation h.opened).2 ⟨ho, fun hl => e ?_⟩, rfl⟩
      rw [h.eq_of_location (h.known o ho) (h.known a ha) hl]

theorem remove {location : Location} (hopen : ∀ o ∈ l.opened, o.location ≠ location) :
    Sound { l with attached := withoutLocation l.attached location } where
  toCoherent := h.toCoherent.remove hopen
  enrolled a ha := h.enrolled a ((mem_withoutLocation h.attached).1 ha).1
  closed := h.closed

theorem retire {key : DeviceKey} (hkey : ∀ a ∈ l.attached, a.key ≠ key) :
    (l.update key none).Sound where
  toCoherent := h.toCoherent.retire hkey
  enrolled a ha := by
    obtain ⟨x, hx, hl⟩ := h.enrolled a ha
    exact ⟨x, (if_neg fun e => hkey a ha e.symm).trans hx, hl⟩
  closed k x hx hp hs := by
    by_cases e : key = k
    · exact nomatch (if_pos e).symm.trans hx
    · exact h.closed k x ((if_neg e).symm.trans hx) hp hs

theorem place {location : Location} {key : DeviceKey} {x : Bearing}
    (hfree : ∀ a ∈ l.attached, a.location ≠ location) (hx : l.bearing? key = some x)
    (hl : x.identity.location = location) :
    Sound { l with attached := l.attached ++ [⟨location, key⟩] } where
  toCoherent := by
    refine h.toCoherent.place hfree ?_
    rintro a ha rfl
    obtain ⟨y, hy, hal⟩ := h.enrolled a ha
    obtain rfl := Option.some.inj (hx.symm.trans hy)
    exact hfree a ha (hal.symm.trans hl)
  enrolled a ha := by
    rcases List.mem_append.1 ha with ha | ha
    · exact h.enrolled a ha
    · obtain rfl := List.mem_singleton.1 ha
      exact ⟨x, hx, hl⟩
  closed := h.closed

/-- A new device may come if it holds no handle. -/
theorem enroll {key : DeviceKey} {x : Bearing} (hnew : l.bearing? key = none)
    (hx : x.identity.IsPassthrough → x.handle = none) : (l.update key (some x)).Sound where
  toCoherent := h.toCoherent.enroll x hnew
  enrolled a ha := by
    obtain ⟨y, hy, hl⟩ := h.enrolled a ha
    refine ⟨y, (if_neg ?_).trans hy, hl⟩
    rintro rfl
    exact nomatch hnew.symm.trans hy
  closed k y hy hp hs := by
    by_cases e : key = k
    · obtain rfl := Option.some.inj ((if_pos e).symm.trans hy)
      rw [hx hp] at hs
      exact nomatch hs
    · exact h.closed k y ((if_neg e).symm.trans hy) hp hs

/-- A device on the bus may be opened, and may be so already. -/
theorem noteOpen {a : Attachment} {x y : Bearing} (ha : a ∈ l.attached)
    (hx : l.bearing? a.key = some x) (hi : y.identity = x.identity)
    (hy : y.identity.IsPassthrough → y.handle.isSome = true) :
    Sound { l.update a.key (some y) with
      opened :=
        if l.opened.any (·.location == a.location) then l.opened else l.opened ++ [a] } where
  toCoherent := h.toCoherent.noteOpen ha hy
  enrolled o ho := by
    obtain ⟨z, hz, hl⟩ := h.enrolled o ho
    by_cases e : a.key = o.key
    · obtain rfl := Option.some.inj (hx.symm.trans ((congrArg l.bearing? e).trans hz))
      exact ⟨y, if_pos e, hi ▸ hl⟩
    · exact ⟨z, (if_neg e).trans hz, hl⟩
  closed key z hz hp hs := by
    by_cases e : a.key = key
    · exact ⟨a, (h.toCoherent.mem_noteOpen ha).2 (.inr rfl), e⟩
    · obtain ⟨o, ho, hok⟩ := h.closed key z ((if_neg e).symm.trans hz) hp hs
      exact ⟨o, (h.toCoherent.mem_noteOpen ha).2 (.inl ho), hok⟩

end Sound

/-- Whether what a lineup may satisfy makes it coherent, and is kept when a device is closed,
removed, discarded or opened. -/
structure Kept (P : Lineup → Prop) : Prop where
  coherent : ∀ {l}, P l → l.Coherent
  close : ∀ {l a x}, P l → a ∈ l.opened → l.bearing? a.key = some x →
    P { l.update a.key (some ⟨x.identity, none⟩) with
      opened := withoutLocation l.opened a.location }
  remove : ∀ {l location}, P l → (∀ o ∈ l.opened, o.location ≠ location) →
    P { l with attached := withoutLocation l.attached location }
  retire : ∀ {l key}, P l → (∀ a ∈ l.attached, a.key ≠ key) → P (l.update key none)
  noteOpen : ∀ {l a x y}, P l → a ∈ l.attached → l.bearing? a.key = some x →
    y.identity = x.identity → (y.identity.IsPassthrough → y.handle.isSome = true) →
    P { l.update a.key (some y) with
      opened :=
        if l.opened.any (·.location == a.location) then l.opened else l.opened ++ [a] }

theorem kept_coherent : Kept Coherent where
  coherent h := h
  close h ha _ := h.close ha _
  remove h hopen := h.remove hopen
  retire h hkey := h.retire hkey
  noteOpen h ha _ _ hy := h.noteOpen ha hy

theorem kept_sound : Kept Sound where
  coherent h := h.toCoherent
  close h ha hx := h.close ha hx
  remove h hopen := h.remove hopen
  retire h hkey := h.retire hkey
  noteOpen h ha hx hi hy := h.noteOpen ha hx hi hy

end Lineup

end VirtualUsb
