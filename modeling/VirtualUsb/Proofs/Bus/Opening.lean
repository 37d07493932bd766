import VirtualUsb.Proofs.Bus.Enrolled
import VirtualUsb.Proofs.Bus.Opened
import VirtualUsb.Proofs.Transfer.Submission

/-!
# Opening by a record

A record names a device by its bus number, which may be out of date, and by its location, which is
not. The bus number only makes the search shorter: whatever it is, the device that a record means is
the one that stands at its location (`Bus.resolve_eq`), and opening it puts it on the list of open
devices once (`Scene.opening_of_reached`).
-/

namespace VirtualUsb

namespace Bus

variable {σ : Type} (host : Host σ) {b : Bus σ} (s : σ)

/-- A record means the device at its location, whatever its bus number. -/
theorem resolve_eq (h : (b.attached.map (·.location)).Nodup) (r : DeviceRecord) :
    b.resolve r = attachmentAt b.attached r.location := by
  unfold resolve
  cases hfast : (b.atBusNumber r.busNumber).filter (·.location == r.location) with
  | none => rfl
  | some a =>
    obtain ⟨hat, hl⟩ := Option.filter_eq_some_iff.1 hfast
    have ha := mem_attached_of_atBusNumber hat
    rw [Option.some_or, (attachmentAt_eq_some_iff h).2 ⟨ha, eq_of_beq hl⟩]

theorem isOpen_iff_mem (h : b.lineup.Coherent) {a : Attachment} (ha : a ∈ b.attached) :
    b.isOpen a.location = true ↔ a ∈ b.opened := by
  rw [isOpen_iff]
  refine ⟨?_, fun ho => ⟨a, ho, rfl⟩⟩
  rintro ⟨o, ho, hl⟩
  exact h.eq_of_location (h.known o ho) ha hl ▸ ho

theorem noteOpen_withDevice (h : b.lineup.Coherent) {a : Attachment} (ha : a ∈ b.attached)
    (d : Device σ) : (b.withDevice a.key d).noteOpen a =
      { b with
        roster := b.roster.set a.key d
        opened := if a ∈ b.opened then b.opened else b.opened ++ [a] } := by
  unfold noteOpen
  show (if b.isOpen a.location then _ else _) = _
  by_cases ho : a ∈ b.opened
  · rw [if_pos ((isOpen_iff_mem h ha).2 ho), if_pos ho]
    rfl
  · rw [if_neg (mt (isOpen_iff_mem h ha).1 ho), if_neg ho]
    rfl

theorem filter_key_opened (h : b.lineup.Coherent) {a : Attachment} (ha : a ∈ b.opened) :
    b.opened.filter (fun o => decide (o.key = a.key)) = [a] := by
  have honly : ∀ o ∈ b.opened, decide (o.key = a.key) = decide (o = a) := fun o ho =>
    decide_eq_decide.2 ⟨h.single o (h.known o ho) a (h.known a ha), congrArg Attachment.key⟩
  have hcount : b.opened.count a = 1 := List.count_eq_one_of_mem (List.Nodup.of_map _ h.opened) ha
  rw [List.filter_congr honly, List.filter_eq, hcount, List.replicate_one]

/-! ## Opening -/

/-- What opening a device by a record does where the device stands on the bus: if the device cannot
be opened, nothing changes, and if it can, it is on the list of open devices once and the guest has
a handle of it. -/
structure OpensBy (b : Bus σ) (r : DeviceRecord) (a : Attachment) (d : Device σ) : Prop where
  failed : ∀ e d' s', d.openForUse host s = (.error e, d', s') →
    b.openRecord host r s = (.error e, b, s')
  opened : ∀ d' s', d.openForUse host s = (.ok (), d', s') →
    ∃ opened, opened = (if a ∈ b.opened then b.opened else b.opened ++ [a]) ∧
      opened.filter (fun o => decide (o.key = a.key)) = [a] ∧
      b.openRecord host r s = (.ok ⟨a.key, r.location, r.busNumber⟩,
        { b with
          roster := b.roster.set a.key d'
          opened
          held := b.held ++ [a.key] }, s')

theorem opensBy_of_mem (h : b.lineup.Coherent) {r : DeviceRecord} {a : Attachment}
    (ha : a ∈ b.attached) (hl : a.location = r.location) {d : Device σ}
    (hd : b.roster.get? a.key = some d) : b.OpensBy host s r a d := by
  have hresolve : b.resolve r = some a := by
    rw [resolve_eq h.attached]
    exact (attachmentAt_eq_some_iff h.attached).2 ⟨ha, hl⟩
  constructor
  · intro e d' s' ho
    obtain rfl : d' = d := d.eq_of_openForUse_error host s ho
    have hsame : b.withDevice a.key d' = b :=
      congrArg (fun roster => { b with roster }) (Roster.set_eq_self hd)
    unfold openRecord
    simp only [hresolve, hd, ho, hsame]
  · intro d' s' ho
    have hopen : b.openRecord host r s = (.ok ⟨a.key, r.location, r.busNumber⟩,
        { b with
          roster := b.roster.set a.key d'
          opened := if a ∈ b.opened then b.opened else b.opened ++ [a]
          held := b.held ++ [a.key] }, s') := by
      unfold openRecord
      simp only [hresolve, hd, ho, noteOpen_withDevice h ha, hl]
    refine ⟨_, rfl, ?_, hopen⟩
    have hkept := kept_openRecord host s Lineup.kept_coherent h r
    rw [hopen] at hkept
    refine filter_key_opened hkept ?_
    show a ∈ if a ∈ b.opened then b.opened else b.opened ++ [a]
    split
    · assumption
    · exact List.mem_append_right _ (List.mem_singleton_self a)

end Bus

namespace Scene

variable {σ : Type} {host : Host σ}

/-- **The bus number of a record does not matter.** Whatever calls were made of a new bus, as long
as devices are attached once more only through handles that are held, a record of whatever age means
the device that stands at its location, and there is no other there. If none stands there, nothing
is opened and nothing changes. If the device cannot be opened, its error is the answer and the bus
is as it was; if it can, it is on the list of open devices once, both lists are else as they were,
and the handle has the location and the bus number of the record. -/
theorem opening_of_reached {n : Nat} {latency : UInt64} {memory : Memory} {world : σ} {c : Scene σ}
    (h : Reached host (fun c op => c.bus.AttachesHeld op)
      ⟨Bus.empty n latency memory, world, []⟩ c) (r : DeviceRecord) :
    c.bus.resolve r = Bus.attachmentAt c.bus.attached r.location ∧
    ((∀ a ∈ c.bus.attached, a.location ≠ r.location) →
      c.bus.openRecord host r c.world = (.error .noDevice, c.bus, c.world)) ∧
    ∀ a ∈ c.bus.attached, a.location = r.location →
      (∀ a' ∈ c.bus.attached, a'.location = r.location → a' = a) ∧
      ∃ d, c.bus.roster.get? a.key = some d ∧ c.bus.OpensBy host c.world r a d := by
  have hsettled : (Bus.empty n latency memory : Bus σ).Settled [] :=
    Bus.settled_empty n latency memory
  have hcoherent := (h.settled hsettled).lineup.toCoherent
  have henrolled := h.enrolled (fun _ _ => id) hsettled (Bus.enrolled_empty n latency memory)
  have hresolve := Bus.resolve_eq hcoherent.attached r
  refine ⟨hresolve, fun hfree => ?_, fun a ha hl => ⟨fun a' ha' hl' => ?_, ?_⟩⟩
  · have hnone : Bus.attachmentAt c.bus.attached r.location = none := by
      refine List.find?_eq_none.2 fun a ha he => hfree a ha (eq_of_beq he)
    unfold Bus.openRecord
    simp only [hresolve, hnone]
  · exact hcoherent.eq_of_location ha' ha (hl'.trans hl.symm)
  · obtain ⟨d, hd⟩ := Bus.exists_device_of_enrolled henrolled ha
    exact ⟨d, hd, Bus.opensBy_of_mem host c.world hcoherent ha hl hd⟩

/-! ### A record that is out of date -/

def standing (place : UInt8) : Passthrough :=
  (Passthrough.attach .obliging default (.ofIndex place) 0 ()).1

/-- A bus with two devices, enumerated before the first of them was taken off it again. -/
def shifted : Scene Unit :=
  (((blank.after .obliging (.attach (.passthrough (standing 1)))).after .obliging
    (.attach (.passthrough (standing 2)))).after .obliging .enumerate).after .obliging
      (.disconnect ⟨⟨0⟩, .ofIndex 1, 1⟩ true)

/-- The bus number that the second device had, and any other, opens it where it is the first. -/
theorem opening_of_shifted :
    Reached .obliging (fun c op => c.bus.AttachesHeld op) blank shifted ∧
      shifted.bus.attached = [⟨.ofIndex 2, ⟨1⟩⟩] ∧ ∀ r : DeviceRecord, r.location = .ofIndex 2 →
        ∃ b, shifted.bus.openRecord .obliging r () = (.ok ⟨⟨1⟩, r.location, r.busNumber⟩, b, ()) ∧
          b.opened = [⟨.ofIndex 2, ⟨1⟩⟩] := by
  have h : Reached .obliging (fun c op => c.bus.AttachesHeld op) blank shifted :=
    (((Reached.first.after _ trivial).after _ trivial).after _ trivial).after _ trivial
  refine ⟨h, rfl, fun r hr => ?_⟩
  obtain ⟨-, -, hopens⟩ := opening_of_reached h r
  obtain ⟨-, d, hd, hat⟩ := hopens ⟨.ofIndex 2, ⟨1⟩⟩ (List.mem_singleton_self _) hr.symm
  obtain rfl := Option.some.inj hd
  obtain ⟨opened, rfl, -, hok⟩ := hat.opened _ _ rfl
  exact ⟨_, hok, rfl⟩

end Scene

end VirtualUsb
