import VirtualUsb.Proofs.Bus.Places

/-!
# Devices that stand on the bus

A device is discarded when nothing refers to it any more, and the list of the devices on the bus
refers to them. So every device on the bus is on the roster, whatever calls were made, as long as
devices are attached once more only through handles that are held (`Scene.Reached.enrolled`).
-/

namespace VirtualUsb

namespace Lineup

/-- Whether a lineup is coherent and every device on the bus is still there. -/
structure Enrolled (l : Lineup) : Prop extends Coherent l where
  enrolled : ∀ a ∈ l.attached, (l.bearing? a.key).isSome = true

theorem isSome_update {l : Lineup} {key k : DeviceKey} (x : Bearing)
    (h : (l.bearing? k).isSome = true) : ((l.update key (some x)).bearing? k).isSome = true := by
  show (if key = k then some x else l.bearing? k).isSome = true
  split
  · rfl
  · exact h

open Bus (mem_withoutLocation) in
theorem kept_enrolled : Kept Enrolled where
  coherent h := h.toCoherent
  close h ha _ := ⟨h.toCoherent.close ha _, fun a ha => isSome_update _ (h.enrolled a ha)⟩
  remove h hopen :=
    ⟨h.toCoherent.remove hopen, fun a ha => h.enrolled a ((mem_withoutLocation h.attached).1 ha).1⟩
  retire h hkey := by
    refine ⟨h.toCoherent.retire hkey, fun a ha => ?_⟩
    rw [show (Lineup.update _ _ _).bearing? a.key = _ from if_neg fun e => hkey a ha e.symm]
    exact h.enrolled a ha
  noteOpen h ha _ _ hy :=
    ⟨h.toCoherent.noteOpen ha hy, fun a ha => isSome_update _ (h.enrolled a ha)⟩

end Lineup

namespace Bus

variable {σ : Type} (host : Host σ) {b : Bus σ} (s : σ)

/-- Whether a call attaches no device once more that the caller does not hold a handle of. -/
def AttachesHeld (b : Bus σ) : Operation σ → Prop
  | .reattach h => h.key ∈ b.held
  | _ => True

theorem isSome_identity? (key : DeviceKey) :
    (b.lineup.bearing? key).isSome = (b.identity? key).isSome :=
  (b.isSome_bearing? key).trans Option.isSome_map.symm

/-- A device that is held or new is still there when it has been placed. -/
theorem enrolled_place (h : b.lineup.Enrolled) {key : DeviceKey} {location : Location}
    (hkey : key ∈ b.held ∨ ∀ a ∈ b.attached, a.key ≠ key)
    (hi : (b.lineup.bearing? key).isSome = true) :
    ∀ a ∈ (b.place host key location s).1.attached,
      ((b.place host key location s).1.lineup.bearing? a.key).isSome = true := by
  have happend {b : Bus σ} (h : b.lineup.Enrolled) (hi : (b.lineup.bearing? key).isSome = true) :
      ∀ a ∈ b.attached ++ [⟨location, key⟩], (b.lineup.bearing? a.key).isSome = true := by
    intro a ha
    rcases List.mem_append.1 ha with ha | ha
    · exact h.enrolled a ha
    · obtain rfl := List.mem_singleton.1 ha
      exact hi
  unfold place
  dsimp only
  split
  · refine happend (kept_disconnectAt host s Lineup.kept_enrolled h location true) ?_
    rw [isSome_identity?, identity?_disconnectAt host s h.toCoherent hkey, ← isSome_identity?]
    exact hi
  · exact happend h hi

theorem enrolled_attach (h : b.lineup.Enrolled) (d : Device σ) :
    ∀ a ∈ (b.attach host d s).2.1.attached,
      ((b.attach host d s).2.1.lineup.bearing? a.key).isSome = true := by
  have hlineup := lineup_enroll (b := b) d
  have hb : Lineup.Enrolled (lineup { b with roster := b.roster.enroll d }) := by
    rw [hlineup]
    exact ⟨h.toCoherent.enroll _ (bearing?_nextKey b),
      fun a ha => Lineup.isSome_update _ (h.enrolled a ha)⟩
  refine enrolled_place host s hb (.inr fun a ha e => ?_) ?_
  · have hsome := h.enrolled a ha
    rw [e, bearing?_nextKey] at hsome
    exact nomatch hsome
  · rw [hlineup]
    exact congrArg Option.isSome (if_pos rfl)

theorem enrolled_reattach (h : b.lineup.Enrolled) {handle : Handle} (hheld : handle.key ∈ b.held) :
    ∀ a ∈ (b.reattach host handle s).2.1.attached,
      ((b.reattach host handle s).2.1.lineup.bearing? a.key).isSome = true := by
  unfold reattach
  split
  · exact h.enrolled
  · rename_i d hd
    refine enrolled_place host s h (.inl hheld) ?_
    rw [isSome_bearing?, hd]
    rfl

theorem enrolled_call {places : List Location} (hsettled : b.Settled places)
    (h : b.lineup.Enrolled) {op : Operation σ} (hop : b.AttachesHeld op) :
    (b.call host s op).2.1.lineup.Enrolled := by
  have hcoherent := (settled_call host s hsettled op).lineup.toCoherent
  rcases attaches_cases op with ⟨d, rfl⟩ | ⟨handle, rfl⟩ | ⟨hattach, hreattach⟩
  · exact ⟨hcoherent, enrolled_attach host s h d⟩
  · exact ⟨hcoherent, enrolled_reattach host s h hop⟩
  · exact kept_call host s Lineup.kept_enrolled h hattach hreattach

theorem enrolled_empty (n : Nat) (latency : UInt64) (memory : Memory) :
    (empty n latency memory : Bus σ).lineup.Enrolled :=
  ⟨(lineup_empty n latency memory).toCoherent, nofun⟩

theorem exists_device_of_enrolled (h : b.lineup.Enrolled) {a : Attachment} (ha : a ∈ b.attached) :
    ∃ d, b.roster.get? a.key = some d :=
  Option.isSome_iff_exists.1 ((b.isSome_bearing? a.key).symm.trans (h.enrolled a ha))

end Bus

theorem Scene.Reached.enrolled {σ : Type} {host : Host σ} {allowed : Scene σ → Operation σ → Prop}
    {first c : Scene σ} (h : Reached host allowed first c)
    (hallowed : ∀ c op, allowed c op → c.bus.AttachesHeld op)
    (h0 : first.bus.Settled first.past.places) (h1 : first.bus.lineup.Enrolled) :
    c.bus.lineup.Enrolled := by
  induction h with
  | first => exact h1
  | @after c op hc ha ih =>
    exact Bus.enrolled_call host c.world (hc.settled h0) ih (hallowed c op ha)

end VirtualUsb
