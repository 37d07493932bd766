import VirtualUsb.Proofs.Bus.Lists
import VirtualUsb.Proofs.Bus.Moves

/-!
# The places of devices

Keys are given out in the order in which devices are attached, and a device stays at the place that
it was attached for. So the places of the devices attached so far, in order, tell for each key on
the lists of a bus where its device stands, whatever calls were made (`Scene.Reached.settled`). If
no two devices were attached for one place, the place tells the device as well.
-/

namespace VirtualUsb

def Operation.place? {σ : Type} : Operation σ → Option Location
  | .attach d => some d.state.location
  | _ => none

theorem Operation.place?_eq_none {σ : Type} (op : Operation σ) (h : ∀ d, op ≠ .attach d) :
    op.place? = none := by
  cases op with
  | attach d => exact absurd rfl (h d)
  | _ => rfl

/-- The places of all devices ever attached, in the order of their keys. -/
def Past.places {σ : Type} (past : Past σ) : List Location :=
  (past.filterMap (·.1.place?)).reverse

theorem Past.places_cons {σ : Type} (past : Past σ) (op : Operation σ) (a : Answer) :
    places ((op, a) :: past) = past.places ++ op.place?.toList := by
  unfold places
  rw [List.filterMap_cons]
  cases op.place? with
  | none => exact (List.append_nil _).symm
  | some l => exact List.reverse_cons

theorem getElem?_append_of_some {places : List Location} {i : Nat} {l : Location}
    (h : places[i]? = some l) (more : List Location) : (places ++ more)[i]? = some l := by
  rw [List.getElem?_append_left (List.getElem?_eq_some_iff.1 h).1]
  exact h

/-! ## Rosters -/

namespace Roster

variable {σ : Type} {host : Host σ} {op : Operation σ} {places : List Location} {r : Roster σ}

/-- Whether a roster has given out a key for each of some places, and each device on it is made for
the place of its key. -/
structure Tracks (places : List Location) (r : Roster σ) : Prop where
  size : r.entries.size = places.length
  place : ∀ key d, r.get? key = some d → places[key.index]? = some d.state.location

theorem Tracks.move {x y : Roster σ × σ} (h : x.1.Tracks places) (hop : op.place? = none)
    (hm : Move host op x y) : y.1.Tracks places := by
  constructor
  · cases hm with
    | perform => exact Array.size_setIfInBounds.trans h.size
    | discard => exact Array.size_setIfInBounds.trans h.size
    | enroll hattach =>
      rw [hattach] at hop
      exact nomatch hop
  · intro key d hd
    rcases hm.origin hd with hd₀ | ⟨d₀, call, hd₀, hcall, e⟩ | ⟨-, hattach⟩
    · exact h.place key d hd₀
    · have hsame := d₀.identity_perform host x.2 hcall.ofBus
      rw [e] at hsame
      rw [h.place key d₀ hd₀, ← d₀.location_identity, ← hsame, Device.location_identity]
    · rw [hattach] at hop
      exact nomatch hop

theorem Tracks.enroll (h : r.Tracks places) (d : Device σ) :
    (r.enroll d).Tracks (places ++ [d.state.location]) := by
  constructor
  · rw [List.length_append, ← h.size]
    exact Array.size_push _
  · intro key d' hd'
    rw [get?_enroll] at hd'
    split at hd'
    · rename_i hkey
      obtain rfl := Option.some.inj hd'
      rw [hkey]
      show (places ++ _)[r.entries.size]? = _
      rw [h.size, List.getElem?_concat_length]
    · exact getElem?_append_of_some (h.place key d' hd') _

end Roster

/-! ## Lineups -/

namespace Lineup

/-- Whether a lineup is coherent and each device on the bus stands at the place of its key. -/
structure Placed (places : List Location) (l : Lineup) : Prop extends Coherent l where
  standing : ∀ a ∈ l.attached, places[a.key.index]? = some a.location

variable {places : List Location} {l : Lineup}

theorem Placed.mono (h : l.Placed places) (more : List Location) : l.Placed (places ++ more) where
  toCoherent := h.toCoherent
  standing a ha := getElem?_append_of_some (h.standing a ha) more

open Bus (mem_withoutLocation) in
theorem kept_placed (places : List Location) : Kept (Placed places) where
  coherent h := h.toCoherent
  close h ha _ := ⟨h.toCoherent.close ha _, h.standing⟩
  remove h hopen :=
    ⟨h.toCoherent.remove hopen, fun a ha => h.standing a ((mem_withoutLocation h.attached).1 ha).1⟩
  retire h hkey := ⟨h.toCoherent.retire hkey, h.standing⟩
  noteOpen h ha _ _ hy := ⟨h.toCoherent.noteOpen ha hy, h.standing⟩

theorem Placed.place (h : l.Placed places) {location : Location} {key : DeviceKey}
    (hfree : ∀ a ∈ l.attached, a.location ≠ location)
    (hplace : places[key.index]? = some location) :
    Placed places { l with attached := l.attached ++ [⟨location, key⟩] } where
  toCoherent := by
    refine h.toCoherent.place hfree ?_
    rintro a ha rfl
    exact hfree a ha (Option.some.inj ((h.standing a ha).symm.trans hplace))
  standing a ha := by
    rcases List.mem_append.1 ha with ha | ha
    · exact h.standing a ha
    · obtain rfl := List.mem_singleton.1 ha
      exact hplace

/-- If no two devices were attached for one place, devices at one place are the same. -/
theorem Placed.eq_of_place (h : l.Placed places) (hnodup : places.Nodup) {a : Attachment}
    (ha : a ∈ l.attached) {key : DeviceKey} {location : Location}
    (hplace : places[key.index]? = some location) : a.location = location ↔ a.key = key := by
  have hstanding := h.standing a ha
  constructor
  · rintro rfl
    have hlt := (List.getElem?_eq_some_iff.1 hstanding).1
    have hindex := (List.getElem?_inj hlt hnodup).1 (hstanding.trans hplace.symm)
    obtain ⟨i⟩ := key
    exact congrArg DeviceKey.mk hindex
  · rintro rfl
    exact Option.some.inj (hstanding.symm.trans hplace)

end Lineup

/-! ## Calls -/

namespace Bus

variable {σ : Type} (host : Host σ) {b : Bus σ} (s : σ) {places : List Location}

/-- Whether the roster and the lists of a bus agree with the places that devices were attached
for. -/
structure Settled (places : List Location) (b : Bus σ) : Prop where
  roster : b.roster.Tracks places
  lineup : b.lineup.Placed places

theorem settled_empty (n : Nat) (latency : UInt64) (memory : Memory) :
    (empty n latency memory : Bus σ).Settled [] where
  roster := ⟨rfl, fun _ _ h => nomatch h⟩
  lineup := ⟨(lineup_empty n latency memory).toCoherent, nofun⟩

theorem tracks_of_moves (op : Operation σ) (hop : op.place? = none) {y : Bus σ × σ}
    (hm : Moves host op (b, s) y) (h : b.roster.Tracks places) : y.1.roster.Tracks places :=
  hm.keep (P := fun x => x.1.Tracks places) (fun _ _ hmove hx => hx.move hop hmove) h

theorem placed_place (h : b.lineup.Placed places) {key : DeviceKey} {location : Location}
    (hplace : places[key.index]? = some location) :
    (b.place host key location s).1.lineup.Placed places := by
  unfold place
  dsimp only
  split
  · have hkept := kept_disconnectAt host s (Lineup.kept_placed places) h location true
    exact hkept.place
      (fun a ha => ((mem_attached_disconnectAt host s h.toCoherent).1 ha).2) hplace
  · rename_i hat
    refine h.place (fun a ha e => hat ?_) hplace
    exact List.any_eq_true.2 ⟨a, ha, beq_iff_eq.2 e⟩

theorem settled_attach (h : b.Settled places) (d : Device σ) :
    (b.attach host d s).2.1.Settled (places ++ [d.state.location]) := by
  have htracks := h.roster.enroll d
  have hplaced : Lineup.Placed (places ++ [d.state.location])
      (lineup { b with roster := b.roster.enroll d }) := by
    rw [lineup_enroll]
    exact ⟨h.lineup.toCoherent.enroll d.bearing (bearing?_nextKey b), (h.lineup.mono _).standing⟩
  constructor
  · exact tracks_of_moves host s .clear rfl
      (moves_place { b with roster := b.roster.enroll d } s _ _) htracks
  · refine placed_place host s hplaced ?_
    show (places ++ _)[b.roster.entries.size]? = _
    rw [h.roster.size, List.getElem?_concat_length]

theorem settled_call (h : b.Settled places) (op : Operation σ) :
    (b.call host s op).2.1.Settled (places ++ op.place?.toList) := by
  by_cases helapse : ∃ world, op = .elapse world
  · obtain ⟨world, rfl⟩ := helapse
    exact (List.append_nil places).symm ▸ h
  · have hmoves := (moves_call b s fun world e => helapse ⟨world, e⟩ : Moves host op (b, s) _)
    rcases attaches_cases op with ⟨d, rfl⟩ | ⟨handle, rfl⟩ | ⟨hattach, hreattach⟩
    · exact settled_attach host s h d
    · refine (List.append_nil places).symm ▸ ⟨tracks_of_moves host s _ rfl hmoves h.roster, ?_⟩
      show (b.reattach host handle s).2.1.lineup.Placed places
      unfold reattach
      split
      · exact h.lineup
      · exact placed_place host s h.lineup (h.roster.place _ _ ‹_›)
    · have hplace := op.place?_eq_none hattach
      rw [hplace]
      exact (List.append_nil places).symm ▸ ⟨tracks_of_moves host s op hplace hmoves h.roster,
        kept_call host s (Lineup.kept_placed places) h.lineup hattach hreattach⟩

end Bus

/-! ## Runs -/

namespace Scene

variable {σ : Type} {host : Host σ} {allowed : Scene σ → Operation σ → Prop} {first c : Scene σ}

theorem Reached.settled (h : Reached host allowed first c)
    (h0 : first.bus.Settled first.past.places) : c.bus.Settled c.past.places := by
  refine h.invariant (P := fun c => c.bus.Settled c.past.places) h0 fun c op hc _ => ?_
  show (c.bus.call host c.world op).2.1.Settled (Past.places ((op, _) :: c.past))
  rw [Past.places_cons]
  exact Bus.settled_call host c.world hc op

theorem Reached.places (h : Reached host allowed first c) :
    first.past.places <+: c.past.places := by
  induction h with
  | first => exact List.prefix_rfl
  | @after c op _ _ ih =>
    refine ih.trans ?_
    show _ <+: Past.places ((op, _) :: c.past)
    rw [Past.places_cons]
    exact List.prefix_append _ _

end Scene

end VirtualUsb
