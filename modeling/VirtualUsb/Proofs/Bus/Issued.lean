import VirtualUsb.Proofs.Bus.Counters
import VirtualUsb.Proofs.Bus.Custody

/-!
# Issued locations

Locations are issued in turn, by a counter of one byte (`Scene.Issuing.turn`). As long as none was
issued twice, a location that waits for a device is free, and the places of devices tell devices,
handles and transfers apart (`Scene.Issuing.isAttached_eq_false`, `Scene.TellsApart`). Attaching at
a free location adds the device to the bus and does nothing else (`Bus.attach_of_free`); in general
it clears the location first (`Bus.receives_attach`).
-/

namespace VirtualUsb

/-! ## Locations in turn -/

namespace Location

/-- The location that is issued after `k` others. -/
def issuedAfter (k : Nat) : Location := .ofIndex (UInt8.ofNat (k + 1))

theorem ofIndex_injective : Function.Injective ofIndex := by
  intro m n h
  have hbytes : #v[m, 0, 0, 0, 0, 0, 0] = #v[n, 0, 0, 0, 0, 0, 0] := congrArg bytes h
  simpa using hbytes

/-- The counter comes back to a location after 256 others and not before. -/
theorem issuedAfter_eq_iff {i j : Nat} : issuedAfter i = issuedAfter j ↔ i % 256 = j % 256 := by
  unfold issuedAfter
  rw [ofIndex_injective.eq_iff, ← UInt8.toNat_inj, UInt8.toNat_ofNat', UInt8.toNat_ofNat']
  omega

theorem nodup_issuedAfter {n : Nat} (h : n ≤ 256) : ((List.range n).map issuedAfter).Nodup := by
  refine List.Nodup.map_on ?_ List.nodup_range
  intro i hi j hj e
  rw [issuedAfter_eq_iff] at e
  rw [List.mem_range] at hi hj
  omega

end Location

namespace Past

variable {σ : Type} {past : Past σ}

def issuedBy : Operation σ × Answer → Option Location
  | (.newLocation, .location location) => location
  | _ => none

theorem issuedBy_of_ne {op : Operation σ} (h : op ≠ .newLocation) (a : Answer) :
    issuedBy (op, a) = none := by
  cases op with
  | newLocation => exact absurd rfl h
  | _ => rfl

/-- The locations issued so far, the first one first. -/
def issued (past : Past σ) : List Location := (past.filterMap issuedBy).reverse

theorem issued_cons (x : Operation σ × Answer) :
    issued (x :: past) = past.issued ++ (issuedBy x).toList := by
  unfold issued
  rw [List.filterMap_cons]
  cases issuedBy x with
  | none => exact (List.append_nil _).symm
  | some l => exact List.reverse_cons

/-- The locations that wait for a device: issued, and not used since. -/
def offers : Past σ → List Location
  | [] => []
  | x :: past =>
    match x.1.place? with
    | some location => (offers past).erase location
    | none => offers past ++ (issuedBy x).toList

theorem offers_of_place?_none {op : Operation σ} (h : op.place? = none) (a : Answer) :
    offers ((op, a) :: past) = past.offers ++ (issuedBy (op, a)).toList := by
  rw [offers, h]

def handleOf : Operation σ × Answer → Option Handle
  | (_, .handle (.ok h)) => some h
  | _ => none

/-- The handles handed out so far, the latest first. -/
def handles (past : Past σ) : List Handle := past.filterMap handleOf

theorem mem_handles_cons {x : Operation σ × Answer} {h : Handle} :
    h ∈ handles (x :: past) ↔ x.2 = .handle (.ok h) ∨ h ∈ past.handles := by
  have hx : handleOf x = some h ↔ x.2 = .handle (.ok h) := by
    obtain ⟨op, a⟩ := x
    cases a with
    | handle answer => cases answer <;> simp [handleOf]
    | _ => simp [handleOf]
  unfold handles
  simp only [List.mem_filterMap, List.mem_cons, or_and_right, exists_or, exists_eq_left, hx]

end Past

namespace Bus

variable {σ : Type} (host : Host σ) (b : Bus σ) (s : σ)

/-! ## Attaching -/

variable {b}

/-- What a bus is like once a device was attached: what stood at its location has left, and the
device has joined the bus under a new key. -/
structure Receives (b : Bus σ) (d : Device σ) (b' : Bus σ) : Prop where
  attached : b'.attached =
    b.attached.filter (fun a => !(a.location == d.state.location)) ++
      [⟨d.state.location, b.roster.nextKey⟩]
  opened : b'.opened = b.opened.filter fun a => !(a.location == d.state.location)
  joined : b'.roster.get? b.roster.nextKey = some d
  devices : ∀ key, key ≠ b.roster.nextKey →
    (∀ a ∈ b.attached, a.key = key → a.location ≠ d.state.location) →
    b'.roster.get? key = b.roster.get? key
  ledger : b'.ledger = b.ledger

def joinedBy (b : Bus σ) (d : Device σ) : Bus σ :=
  { b with
    roster := b.roster.enroll d
    attached := b.attached ++ [⟨d.state.location, b.roster.nextKey⟩] }

theorem attach_of_free {d : Device σ} (h : b.isAttached d.state.location = false) :
    b.attach host d s = (b.roster.nextKey, b.joinedBy d, s) := by
  have hplace : Bus.place host { b with roster := b.roster.enroll d } b.roster.nextKey
      d.state.location s = (b.joinedBy d, s) := by
    unfold place
    rw [show Bus.isAttached { b with roster := b.roster.enroll d } d.state.location = false from h]
    rfl
  unfold attach
  rw [hplace]

theorem Settled.key_ne_nextKey {places : List Location} (h : b.Settled places) {a : Attachment}
    (ha : a ∈ b.attached) : a.key ≠ b.roster.nextKey := by
  intro hkey
  have hlt := (List.getElem?_eq_some_iff.1 (h.lineup.standing a ha)).1
  rw [hkey, ← h.roster.size] at hlt
  exact Nat.lt_irrefl _ hlt

theorem receives_attach {places : List Location} (h : b.Settled places) (d : Device σ) :
    b.Receives d (b.attach host d s).2.1 := by
  have hledger := (quiet_attach host b s d).ledger
  have hcoherent := h.lineup.toCoherent
  cases hat : b.isAttached d.state.location with
  | false =>
    have hfree : ∀ a ∈ b.attached, a.location ≠ d.state.location := by
      intro a ha e
      exact List.any_eq_false.1 hat a ha (beq_iff_eq.2 e)
    rw [attach_of_free host s hat] at hledger ⊢
    refine ⟨?_, ?_, ?_, fun key hkey _ => ?_, hledger⟩
    · exact congrArg (· ++ _) (filter_eq_self_of_free hfree)
    · exact filter_eq_self_of_free fun a ha => hfree a (hcoherent.known a ha)
    · exact (Roster.get?_enroll ..).trans (if_pos rfl)
    · exact (Roster.get?_enroll ..).trans (if_neg hkey)
  | true =>
    -- the location is cleared once the device is on the roster
    let b₁ : Bus σ := { b with roster := b.roster.enroll d }
    have h₁ : b₁.lineup.Coherent := by
      rw [lineup_enroll]
      exact hcoherent.enroll d.bearing (bearing?_nextKey b)
    have hdeparts := departs_disconnectAt host s h₁ d.state.location
    have hcall : b.attach host d s = (b.roster.nextKey,
        { (b₁.disconnectAt host d.state.location true s).1 with
          attached := (b₁.disconnectAt host d.state.location true s).1.attached ++
            [⟨d.state.location, b.roster.nextKey⟩] },
        (b₁.disconnectAt host d.state.location true s).2) := by
      unfold attach place
      rw [show Bus.isAttached { b with roster := b.roster.enroll d } d.state.location = true
        from hat]
      rfl
    rw [hcall] at hledger ⊢
    refine ⟨congrArg (· ++ _) hdeparts.attached, hdeparts.opened, ?_,
      fun key hkey hne => ?_, hledger⟩
    · refine (hdeparts.devices _ fun a ha hk => ?_).trans ?_
      · exact absurd hk (h.key_ne_nextKey ha)
      · exact (Roster.get?_enroll ..).trans (if_pos rfl)
    · refine (hdeparts.devices key fun a ha hk => beq_eq_false_iff_ne.2 (hne a ha hk)).trans ?_
      exact (Roster.get?_enroll ..).trans (if_neg hkey)

/-! ## Owners of slots -/

variable {op : Operation σ} {a : Answer} {b' : Bus σ} {id : TransferId}

theorem Effect.owner_eq (h : b.Effect op a b') (hnone : Past.acceptedBy (op, a) = none) :
    (b'.pool.get? id).map (·.owner) = (b.pool.get? id).map (·.owner) := by
  have hset {id' : TransferId} {t u : Transfer} (ht : b.pool.get? id' = some t)
      (hu : u.owner = t.owner) :
      ((b.pool.set id' u).get? id).map (·.owner) = (b.pool.get? id).map (·.owner) := by
    rw [TransferPool.get?_set_of_get? ht]
    split
    · rename_i hid
      rw [← hid, ht, Option.map_some, Option.map_some, hu]
    · rfl
  cases h with
  | quiet _ hq => rw [hq.pool]
  | attached hq => rw [hq.pool]
  | refused | stored => rfl
  | accepted hsub hd => exact nomatch (Past.acceptedBy_of_ok hsub).symm.trans hnone
  | @reported c t _ ht _ hq =>
    rw [hq.pool]
    refine hset ht ?_
    show (t.clearDestination c.kind).owner = t.owner
    cases c.kind <;> rfl
  | failed ht => exact hset ht rfl
  | pumped now =>
    have hswept : (b.pump now).2.pool.get? id = _ :=
      (Agenda.swept_pump b.agenda b.pool now).get? id
    rw [hswept, Option.map_map]
    refine congrArg (Option.map · (b.pool.get? id)) (funext fun t => ?_)
    have hsettle : (t.settle now).owner = t.owner := by
      unfold Transfer.settle
      repeat' split
      all_goals rfl
    show (if id ∈ b.agenda.pending then t.settle now else t).owner = t.owner
    split
    · exact hsettle
    · rfl

theorem owner_call (hn : b.pool.Named) (op : Operation σ)
    (hclaim : ∀ kind d, Past.acceptedBy (op, (b.call host s op).1) = some (kind, d) → d.id ≠ id) :
    ((b.call host s op).2.1.pool.get? id).map (·.owner) = (b.pool.get? id).map (·.owner) := by
  rcases effect_or_admitted host s hn op with ⟨he, hnone⟩ | ⟨kind, d, hd, hadm⟩
  · exact he.owner_eq hnone
  · rw [hadm.other id (hclaim kind d hd).symm]

end Bus

/-! ## Runs -/

/-- Whether a call was accepted as a transfer in a slot. -/
def Past.Claims {σ : Type} (id : TransferId) (x : Operation σ × Answer) : Prop :=
  ∃ kind d, acceptedBy x = some (kind, d) ∧ d.id = id

/-- Whether a slot is still noted for the location of the handle of a submission: the slot was
claimed for it, and by no call since. -/
structure Submission.Owns {σ : Type} (host : Host σ) (allowed : Scene σ → Operation σ → Prop)
    (first : Scene σ) (u : Submission σ) (c : Scene σ) : Prop where
  reached : Scene.Reached host allowed first u.scene
  made : allowed u.scene u.op
  target : u.op.target? = some u.handle
  opened : u.scene.bus.openedDevice u.handle = some (u.key, u.device)
  answer : (u.scene.bus.call host u.scene.world u.op).1 = .dispatch (.ok u.answer)
  since : Scene.Reached host
    (fun c op => allowed c op ∧
      ¬ Past.Claims u.answer.id (op, (c.bus.call host c.world op).1))
    (u.scene.after host u.op) c

namespace Scene

variable {σ : Type} {host : Host σ} {allowed : Scene σ → Operation σ → Prop} {first c : Scene σ}

/-- The owner of a slot is the one that was noted when the slot was last claimed. -/
theorem Reached.exists_owner (h : Reached host allowed first c) (hn : first.bus.pool.Named)
    (hfirst : ∀ id t, first.bus.pool.get? id = some t → t.owner = none)
    {id : TransferId} {t : Transfer} {location : Location} (ht : c.bus.pool.get? id = some t)
    (howner : t.owner = some location) :
    ∃ u : Submission σ, u.answer.id = id ∧ u.handle.location = location ∧
      u.Owns host allowed first c := by
  induction h generalizing t with
  | first => exact nomatch (hfirst id t ht).symm.trans howner
  | @after c op hc hop ih =>
    by_cases hclaim : Past.Claims id (op, (c.bus.call host c.world op).1)
    · obtain ⟨kind, a, ha, rfl⟩ := hclaim
      obtain ⟨hsub, hok⟩ := Past.eq_of_acceptedBy ha
      obtain ⟨handle, htarget⟩ := op.target?_of_submits hsub
      obtain ⟨key, d, hd, hserved⟩ := Bus.servedBy_of_ok host c.world (hc.named hn) htarget hok
      have hlocation := (hserved.owner_eq ht).symm.trans howner
      exact ⟨⟨c, op, handle, key, d, a⟩, rfl, Option.some.inj hlocation, hc, hop, htarget, hd, hok,
        .first⟩
    · have hkept := Bus.owner_call host c.world (hc.named hn) op fun kind d hd hid =>
        hclaim ⟨kind, d, hd, hid⟩
      change (c.after host op).bus.pool.get? id = some t at ht
      rw [show (c.bus.call host c.world op).2.1.pool.get? id = some t from ht] at hkept
      obtain ⟨t₀, ht₀, e⟩ := Option.map_eq_some_iff.1 hkept.symm
      obtain ⟨u, rfl, hl, hu⟩ := ih ht₀ (e.trans howner)
      exact ⟨u, rfl, hl, { hu with since := hu.since.after op ⟨hop, hclaim⟩ }⟩

theorem Reached.place_of_handle (h : Reached host allowed first c)
    (h0 : first.bus.Settled first.past.places) (hfirst : first.past = []) {x : Handle}
    (hx : x ∈ c.past.handles) : c.past.places[x.key.index]? = some x.location := by
  induction h with
  | first =>
    rw [hfirst] at hx
    exact nomatch hx
  | @after c op hc hop ih =>
    have hsettled := hc.settled h0
    have hnext : (c.after host op).bus.Settled (c.after host op).past.places :=
      (hc.after op hop).settled h0
    rcases Past.mem_handles_cons.1 hx with hopens | hx
    · have hmem : x.attachment ∈ (c.after host op).bus.opened := by
        refine (Bus.mem_opened_call host c.world hsettled.lineup.toCoherent op).2 (.inl ?_)
        rw [show (c.bus.call host c.world op).1 = .handle (.ok x) from hopens]
        rfl
      exact hnext.lineup.standing _ (hnext.lineup.known _ hmem)
    · rw [show (c.after host op).past.places = _ from Past.places_cons ..]
      exact getElem?_append_of_some (ih hx) _

/-! ### Where devices are attached -/

/-- Whether a call brings no device but to a location that waits for one. -/
def TakesOffer (c : Scene σ) : Operation σ → Prop
  | .attach d => d.state.location ∈ c.past.offers
  | .reattach _ => False
  | _ => True

/-- How the counter, the locations issued and the devices of a bus agree. -/
structure Issuing (c : Scene σ) : Prop where
  settled : c.bus.Settled c.past.places
  counter : c.bus.lastLocation = UInt8.ofNat c.past.issued.length
  turn : c.past.issued = (List.range c.past.issued.length).map Location.issuedAfter
  used : c.past.issued.Perm (c.past.places ++ c.past.offers)

theorem issuing_empty (n : Nat) (latency : UInt64) (memory : Memory) (world : σ) :
    Issuing ⟨Bus.empty n latency memory, world, []⟩ :=
  ⟨Bus.settled_empty n latency memory, rfl, rfl, .refl _⟩

theorem Issuing.newLocation (h : c.Issuing) : (c.after host .newLocation).Issuing := by
  have hnext : c.bus.newLocation.1 = .issuedAfter c.past.issued.length := by
    show Location.ofIndex (c.bus.lastLocation + 1) = .ofIndex (UInt8.ofNat (_ + 1))
    rw [h.counter, UInt8.ofNat_add]
    rfl
  have hissued : (c.after host .newLocation).past.issued =
      c.past.issued ++ [.issuedAfter c.past.issued.length] := by
    rw [← hnext]
    exact Past.issued_cons _
  have hplaces : (c.after host .newLocation).past.places = c.past.places :=
    (Past.places_cons ..).trans (List.append_nil _)
  constructor
  · rw [hplaces]
    exact (List.append_nil c.past.places) ▸ Bus.settled_call host c.world h.settled .newLocation
  · show c.bus.lastLocation + 1 = _
    rw [hissued, List.length_append, h.counter, UInt8.ofNat_add]
    rfl
  · rw [hissued, List.length_append, List.length_singleton, List.range_succ, List.map_append,
      ← h.turn]
    rfl
  · rw [hissued, hplaces, ← hnext]
    show (c.past.issued ++ _).Perm (c.past.places ++ (c.past.offers ++ [c.bus.newLocation.1]))
    rw [← List.append_assoc]
    exact h.used.append_right _

theorem Issuing.attach (h : c.Issuing) {d : Device σ} (hd : d.state.location ∈ c.past.offers) :
    (c.after host (.attach d)).Issuing := by
  have hissued : (c.after host (.attach d)).past.issued = c.past.issued :=
    (Past.issued_cons _).trans (List.append_nil _)
  have hplaces : (c.after host (.attach d)).past.places = c.past.places ++ [d.state.location] :=
    Past.places_cons ..
  constructor
  · rw [hplaces]
    exact Bus.settled_call host c.world h.settled (.attach d)
  · rw [hissued, ← h.counter]
    exact Bus.lastLocation_call host c.bus c.world nofun
  · rw [hissued]
    exact h.turn
  · rw [hissued, hplaces]
    show c.past.issued.Perm (_ ++ c.past.offers.erase d.state.location)
    rw [List.append_assoc]
    exact h.used.trans ((List.perm_cons_erase hd).append_left _)

/-- A call that issues no location and attaches no device leaves all this as it is. -/
theorem Issuing.rest (h : c.Issuing) {op : Operation σ} (hissue : op ≠ .newLocation)
    (hplace : op.place? = none) : (c.after host op).Issuing := by
  have hnone (a : Answer) : Past.issuedBy (op, a) = none := Past.issuedBy_of_ne hissue a
  have hissued : (c.after host op).past.issued = c.past.issued := by
    show Past.issued ((op, _) :: c.past) = _
    rw [Past.issued_cons, hnone]
    exact List.append_nil _
  have hplaces : (c.after host op).past.places = c.past.places := by
    show Past.places ((op, _) :: c.past) = _
    rw [Past.places_cons, hplace]
    exact List.append_nil _
  have hoffers : (c.after host op).past.offers = c.past.offers := by
    show Past.offers ((op, _) :: c.past) = _
    rw [Past.offers_of_place?_none hplace, hnone]
    exact List.append_nil _
  constructor
  · have hsettled := Bus.settled_call host c.world h.settled op
    rw [hplace] at hsettled
    rw [hplaces]
    exact (List.append_nil c.past.places) ▸ hsettled
  · rw [hissued, ← h.counter]
    exact Bus.lastLocation_call host c.bus c.world hissue
  · rw [hissued]
    exact h.turn
  · rw [hissued, hplaces, hoffers]
    exact h.used

theorem Issuing.after (h : c.Issuing) {op : Operation σ} (hop : c.TakesOffer op) :
    (c.after host op).Issuing := by
  cases op with
  | newLocation => exact h.newLocation
  | attach d => exact h.attach hop
  | reattach => exact hop.elim
  | _ => exact h.rest nofun rfl

theorem Reached.issuing (h : Reached host TakesOffer first c) (h0 : first.Issuing) : c.Issuing :=
  h.invariant h0 fun _ _ hc hop => hc.after hop

/-! ### Locations that were issued once -/

section

variable (h : c.Issuing) (hfew : c.past.issued.length ≤ 256)

include h hfew

theorem Issuing.nodup : (c.past.places ++ c.past.offers).Nodup := by
  rw [← h.used.nodup_iff, h.turn]
  exact Location.nodup_issuedAfter hfew

/-- No device was ever attached at a location that waits for one. -/
theorem Issuing.not_mem_places {location : Location} (hl : location ∈ c.past.offers) :
    location ∉ c.past.places := by
  intro hplace
  exact (List.nodup_append.1 (h.nodup hfew)).2.2 location hplace location hl rfl

theorem Issuing.isAttached_eq_false {location : Location} (hl : location ∈ c.past.offers) :
    c.bus.isAttached location = false := by
  refine List.any_eq_false.2 fun a ha hloc => ?_
  have hplace := h.settled.lineup.standing a ha
  rw [beq_iff_eq.1 hloc] at hplace
  exact h.not_mem_places hfew hl (List.mem_of_getElem? hplace)

end

/-- Whether handles and transfers tell devices apart: at the location of a handle stands no device
but that of the handle, and at the location that a slot is noted for no device but the one that the
transfer was submitted to. -/
structure TellsApart (c : Scene σ) (host : Host σ) (first : Scene σ) : Prop where
  handles : ∀ h ∈ c.past.handles, ∀ a ∈ c.bus.attached, a.location = h.location → a.key = h.key
  transfers : ∀ id t location, c.bus.pool.get? id = some t → t.owner = some location →
    ∃ u : Submission σ, u.answer.id = id ∧ u.handle.location = location ∧
      u.Owns host TakesOffer first c ∧
      ∀ a ∈ c.bus.attached, a.location = location → a.key = u.key

theorem owner_empty {n : Nat} {latency : UInt64} {memory : Memory} {id : TransferId}
    {t : Transfer} (ht : (Bus.empty n latency memory : Bus σ).pool.get? id = some t) :
    t.owner = none := by
  obtain ⟨id', rfl⟩ := TransferPool.get?_ofCapacity ht
  rfl

theorem Reached.tellsApart {n : Nat} (hn : n ≤ UInt32.size) {latency : UInt64} {memory : Memory}
    {world : σ} (h : Reached host TakesOffer ⟨Bus.empty n latency memory, world, []⟩ c)
    (hfew : c.past.issued.length ≤ 256) :
    c.TellsApart host ⟨Bus.empty n latency memory, world, []⟩ := by
  have hissuing := h.issuing (issuing_empty n latency memory world)
  have hplaced := hissuing.settled.lineup
  have hnodup := (List.nodup_append.1 (hissuing.nodup hfew)).1
  constructor
  · intro x hx a ha hl
    exact (hplaced.eq_of_place hnodup ha
      (h.place_of_handle (Bus.settled_empty n latency memory) rfl hx)).1 hl
  · intro id t location ht howner
    obtain ⟨u, hid, hl, hu⟩ := h.exists_owner (TransferPool.named_ofCapacity hn)
      (fun _ _ => owner_empty) ht howner
    refine ⟨u, hid, hl, hu, fun a ha hloc => ?_⟩
    -- the device served the transfer where the handle leads, and has its place there for good
    have hmem := Bus.mem_opened_of_openedDevice hu.opened
    have hthen := hu.reached.settled (Bus.settled_empty n latency memory)
    have hstood := hthen.lineup.standing _ (hthen.lineup.known _ hmem)
    have hrun : Reached host TakesOffer u.scene c :=
      (Reached.first.after u.op hu.made).trans (hu.since.mono fun _ _ => And.left)
    obtain ⟨more, hmore⟩ := hrun.places
    have hplace : c.past.places[u.key.index]? = some location := by
      rw [← hmore, ← hl]
      exact getElem?_append_of_some hstood more
    exact (hplaced.eq_of_place hnodup ha hplace).1 hloc

end Scene

end VirtualUsb
