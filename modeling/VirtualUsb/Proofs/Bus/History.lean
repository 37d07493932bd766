import VirtualUsb.Proofs.Bus.Lists
import VirtualUsb.Proofs.Device.Dealings
import VirtualUsb.Proofs.Device.Holding

/-!
# Whose calls of the host

The log of a host tells which calls were made, but not which device made them. A history of a run
(`Scene.History`) tells that as well: it lists the turns that devices of the host took, each with
the device as it was, the method that was called and the calls of the host that came of it. Every
run has a history (`Scene.Reached.exists_history`), and what every turn keeps holds throughout it
(`Scene.History.keep`).
-/

namespace VirtualUsb

/-- A turn of a device of the host: the device and the world as they were, the method called, or
none if the device was discarded, and the calls of the host that came of it, the latest first. -/
structure HostTurn (σ : Type) where
  key : DeviceKey
  device : Passthrough
  world : σ × HostLog
  call : Option DeviceCall
  made : HostLog

namespace HostTurn

variable {σ : Type}

/-- The calls of the host that came of some turns, all of them the latest first. -/
def calls (turns : List (HostTurn σ)) : HostLog := turns.flatMap (·.made)

/-- Those that came of the turns of one device. -/
def callsOf (key : DeviceKey) (turns : List (HostTurn σ)) : HostLog :=
  calls (turns.filter (·.key = key))

/-- Whether a turn may leave a device as given. -/
def Leaves (host : Host σ) (t : HostTurn σ) (q : Passthrough) : Prop :=
  match t.call with
  | some call =>
    ((Device.passthrough t.device).perform host.logged t.world call).1 = .passthrough q ∧
      t.device.Deals call t.made q
  | none => ∃ made, t.made = .unreference t.device.device.id :: made ∧ t.device.Deals .close made q

variable {t : HostTurn σ} {turns : List (HostTurn σ)} {key : DeviceKey}

theorem calls_cons : calls (t :: turns) = t.made ++ calls turns := List.flatMap_cons

theorem callsOf_cons_self : callsOf t.key (t :: turns) = t.made ++ callsOf t.key turns := by
  unfold callsOf
  rw [List.filter_cons_of_pos, calls_cons]
  exact decide_eq_true rfl

theorem callsOf_cons_of_ne (h : key ≠ t.key) : callsOf key (t :: turns) = callsOf key turns := by
  unfold callsOf
  rw [List.filter_cons_of_neg]
  rw [decide_eq_true_eq]
  exact h.symm

end HostTurn

/-! ## Turns -/

/-- A device that is made of software and knows nothing of the host stays so. -/
theorem Device.IsApart.perform {σ : Type} {d : Device (σ × HostLog)} (h : d.IsApart)
    {call : DeviceCall} (hcall : call.OfBus) (host : Host σ) (s : σ × HostLog) :
    (d.perform host.logged s call).1.IsApart := by
  cases d with
  | passthrough p =>
    obtain ⟨made, q, s', he, -⟩ := p.deals_perform host s hcall
    rw [he]
    trivial
  | emulated e =>
    obtain ⟨e', s', he, hapart, -⟩ := perform_emulated host.logged (s := s) hcall h
    rw [he]
    exact hapart
  | external e =>
    obtain ⟨e', s', he, hapart, -⟩ := perform_external host.logged (s := s) hcall h
    rw [he]
    exact hapart

namespace Roster

variable {σ : Type} {host : Host σ} {op : Operation (σ × HostLog)}
  {x y z : Roster (σ × HostLog) × σ × HostLog} {t : HostTurn σ}

theorem index_lt_of_get? {r : Roster σ} {key : DeviceKey} {d : Device σ}
    (hd : r.get? key = some d) : key.index < r.entries.size :=
  (Array.getElem?_eq_some_iff.1 (Option.join_eq_some_iff.1 hd)).1

/-- Whether a device of the host has taken a turn: one of its methods was called, or it was
discarded. -/
inductive TakesTurn (host : Host σ) (op : Operation (σ × HostLog)) :
    Roster (σ × HostLog) × σ × HostLog → Roster (σ × HostLog) × σ × HostLog → HostTurn σ → Prop
  | perform {r : Roster (σ × HostLog)} {s : σ × HostLog} {key : DeviceKey} {p : Passthrough}
      {made : HostLog} (call : DeviceCall) (hcall : op.Makes call)
      (hd : r.get? key = some (.passthrough p))
      (hmade : ((Device.passthrough p).perform host.logged s call).2.2 = made ++ s.2) :
      TakesTurn host op (r, s) (r.set key ((Device.passthrough p).perform host.logged s call).1,
        ((Device.passthrough p).perform host.logged s call).2) ⟨key, p, s, some call, made⟩
  | discard {r : Roster (σ × HostLog)} {s : σ × HostLog} {key : DeviceKey} {p : Passthrough}
      {made : HostLog} (hd : r.get? key = some (.passthrough p))
      (hmade : (p.discard host.logged s).2 = made ++ s.2) :
      TakesTurn host op (r, s) (r.retire key, p.discard host.logged s) ⟨key, p, s, none, made⟩

/-- What is left by a turn. -/
structure Took (host : Host σ) (x y : Roster (σ × HostLog) × σ × HostLog) (t : HostTurn σ) :
    Prop where
  there : x.1.get? t.key = some (.passthrough t.device)
  log : y.2.2 = t.made ++ x.2.2
  size : y.1.entries.size = x.1.entries.size
  /-- Only the device whose turn it was has changed. -/
  left : ∃ q, t.Leaves host q ∧ ∀ key p, y.1.get? key = some (.passthrough p) →
    key = t.key ∧ p = q ∨ key ≠ t.key ∧ x.1.get? key = some (.passthrough p)

theorem TakesTurn.took (h : TakesTurn host op x y t) : Took host x y t := by
  cases h with
  | @perform r s key p made call hcall hd hmade =>
    obtain ⟨made', q, s', he, hs, hdeals⟩ := p.deals_perform host s hcall.ofBus
    rw [he] at hmade ⊢
    obtain rfl := List.append_cancel_right (hs.symm.trans hmade)
    refine ⟨hd, hs, Array.size_setIfInBounds, q, ⟨congrArg Prod.fst he, hdeals⟩, fun k p' hp' => ?_⟩
    change (r.set key (.passthrough q)).get? k = _ at hp'
    rw [get?_set_of_get? hd] at hp'
    split at hp'
    · rename_i hk
      exact .inl ⟨hk.symm, (Device.passthrough.inj (Option.some.inj hp')).symm⟩
    · rename_i hk
      exact .inr ⟨fun e => hk e.symm, hp'⟩
  | @discard r s key p made hd hmade =>
    obtain ⟨made', hlog, hdeals⟩ := p.dealt_discard host s
    obtain rfl := List.append_cancel_right (hlog.symm.trans hmade)
    refine ⟨hd, hmade, Array.size_setIfInBounds, _, ⟨made', rfl, hdeals⟩, fun k p' hp' => ?_⟩
    change (r.retire key).get? k = _ at hp'
    rw [get?_retire] at hp'
    split at hp'
    · exact nomatch hp'
    · rename_i hk
      exact .inr ⟨fun e => hk e.symm, hp'⟩

/-- A move of which the host hears nothing, as no device that stands for one of its own has a
turn. -/
structure Unheard (host : Host σ) (op : Operation (σ × HostLog))
    (x y : Roster (σ × HostLog) × σ × HostLog) : Prop where
  move : Move host.logged op x y
  log : y.2.2 = x.2.2
  devices : ∀ key p, y.1.get? key = some (.passthrough p) →
    x.1.get? key = some (.passthrough p) ∨ key = x.1.nextKey ∧ op = .attach (.passthrough p)

/-- A row of moves, with the turns taken in it. -/
inductive Turns (host : Host σ) (op : Operation (σ × HostLog))
    (x : Roster (σ × HostLog) × σ × HostLog) :
    Roster (σ × HostLog) × σ × HostLog → List (HostTurn σ) → Prop
  | refl : Turns host op x x []
  | turn {y z : Roster (σ × HostLog) × σ × HostLog} {t : HostTurn σ} {row : List (HostTurn σ)}
      (h : Turns host op x y row) (ht : TakesTurn host op y z t) : Turns host op x z (t :: row)
  | unheard {y z : Roster (σ × HostLog) × σ × HostLog} {row : List (HostTurn σ)}
      (h : Turns host op x y row) (hm : Unheard host op y z) : Turns host op x z row

/-! ### Moves as turns -/

/-- Whether the devices that are made of software know nothing of what the host is asked for. -/
def IsApart (r : Roster (σ × HostLog)) : Prop := ∀ key d, r.get? key = some d → d.IsApart

theorem IsApart.move (h : x.1.IsApart) (hm : Move host.logged op x y)
    (hop : ∀ d, op = .attach d → d.IsApart) : y.1.IsApart := by
  intro key d hd
  rcases hm.origin hd with hd₀ | ⟨d₀, call, hd₀, hcall, e⟩ | ⟨-, e⟩
  · exact h key d hd₀
  · have hapart := Device.IsApart.perform (h key d₀ hd₀) hcall.ofBus host x.2
    rw [e] at hapart
    exact hapart
  · exact hop d e

/-- Another state of a device that is made of software is nothing that the host hears of. -/
theorem unheard_set {r : Roster (σ × HostLog)} {s : σ × HostLog} {key : DeviceKey}
    {d d' : Device (σ × HostLog)} {s' : σ × HostLog} (hd : r.get? key = some d)
    (hm : Move host.logged op (r, s) (r.set key d', s')) (hd' : ∀ p, d' ≠ .passthrough p)
    (hs : s'.2 = s.2) : Unheard host op (r, s) (r.set key d', s') where
  move := hm
  log := hs
  devices k p hp := by
    rw [get?_set_of_get? hd] at hp
    split at hp
    · exact absurd (Option.some.inj hp) (hd' p)
    · exact .inl hp

/-- Every move is a turn, or one that the host does not hear of. -/
theorem IsApart.takesTurn_or_unheard (h : x.1.IsApart) (hm : Move host.logged op x y) :
    (∃ t, TakesTurn host op x y t) ∨ Unheard host op x y := by
  have hmove := hm
  cases hm with
  | @perform r s key d call hcall hd =>
    cases d with
    | passthrough p =>
      obtain ⟨made, q, s', he, hs, -⟩ := p.deals_perform host s hcall.ofBus
      exact .inl ⟨_, .perform call hcall hd (by rw [he]; exact hs)⟩
    | emulated e =>
      obtain ⟨e', s', he, -, hs⟩ :=
        Device.perform_emulated host.logged (s := s) hcall.ofBus (h key _ hd)
      rw [he] at hmove ⊢
      exact .inr (unheard_set hd hmove nofun hs)
    | external e =>
      obtain ⟨e', s', he, -, hs⟩ :=
        Device.perform_external host.logged (s := s) hcall.ofBus (h key _ hd)
      rw [he] at hmove ⊢
      exact .inr (unheard_set hd hmove nofun hs)
  | @discard r s key d hd =>
    have hrest (k : DeviceKey) (p : Passthrough)
        (hp : (r.retire key).get? k = some (.passthrough p)) :
        r.get? k = some (.passthrough p) := by
      rw [get?_retire] at hp
      split at hp
      · exact nomatch hp
      · exact hp
    cases d with
    | passthrough p =>
      obtain ⟨made, hlog, -⟩ := p.dealt_discard host s
      exact .inl ⟨_, .discard hd hlog⟩
    | emulated e => exact .inr ⟨hmove, rfl, fun k p hp => .inl (hrest k p hp)⟩
    | external e => exact .inr ⟨hmove, rfl, fun k p hp => .inl (hrest k p hp)⟩
  | @enroll r s d hattach =>
    refine .inr ⟨hmove, rfl, fun k p hp => ?_⟩
    change (r.enroll d).get? k = _ at hp
    rw [get?_enroll] at hp
    split at hp
    · rename_i hk
      exact .inr ⟨hk, hattach.trans (congrArg _ (Option.some.inj hp))⟩
    · exact .inl hp

/-- So a row of moves is a row of turns. -/
theorem IsApart.exists_turns (h : x.1.IsApart) (hrow : Moves host.logged op x y)
    (hop : ∀ d, op = .attach d → d.IsApart) :
    y.1.IsApart ∧ ∃ row, Turns host op x y row := by
  induction hrow with
  | refl => exact ⟨h, [], .refl⟩
  | tail _ hm ih =>
    obtain ⟨hapart, row, hturns⟩ := ih
    refine ⟨hapart.move hm hop, ?_⟩
    rcases hapart.takesTurn_or_unheard hm with ⟨t, ht⟩ | hunheard
    · exact ⟨t :: row, hturns.turn ht⟩
    · exact ⟨row, hturns.unheard hunheard⟩

end Roster

/-! ## Histories -/

namespace Scene

variable {σ : Type} {host : Host σ} {first c : Scene (σ × HostLog)} {turns : List (HostTurn σ)}

/-- Whether a call brings no device that has a handle of the host open or interfaces claimed, or
that has a part in what the host is asked for. A handle that is put back is one that is held, and
the world moves on without another call of the host. -/
def KeepsHistory (c : Scene (σ × HostLog)) : Operation (σ × HostLog) → Prop
  | .attach (.passthrough p) => p.handle = none ∧ p.claimed = .empty
  | .attach d => d.IsApart
  | .reattach h => h.key ∈ c.bus.held
  | .elapse world => world.2 = c.world.2
  | _ => True

/-- Whether some turns, the latest first, are those taken in a run from one scene to another. -/
inductive History (host : Host σ) (first : Scene (σ × HostLog)) :
    Scene (σ × HostLog) → List (HostTurn σ) → Prop
  | first : History host first first []
  | after {c : Scene (σ × HostLog)} {turns row : List (HostTurn σ)} (op : Operation (σ × HostLog))
      (h : History host first c turns) (hop : c.KeepsHistory op)
      (hrow : Roster.Turns host op (c.bus.roster, c.world)
        ((c.after host.logged op).bus.roster, (c.after host.logged op).world) row) :
      History host first (c.after host.logged op) (row ++ turns)
  | elapse {c : Scene (σ × HostLog)} {turns : List (HostTurn σ)} {world : σ × HostLog}
      (h : History host first c turns) (hop : c.KeepsHistory (.elapse world)) :
      History host first (c.after host.logged (.elapse world)) turns

theorem KeepsHistory.isApart {op : Operation (σ × HostLog)} (h : c.KeepsHistory op)
    (d : Device (σ × HostLog)) (hd : op = .attach d) : d.IsApart := by
  subst hd
  cases d with
  | passthrough => trivial
  | emulated | external => exact h

theorem KeepsHistory.attachesClosed {op : Operation (σ × HostLog)} (h : c.KeepsHistory op) :
    c.bus.AttachesClosed op := by
  cases op with
  | attach d =>
    cases d with
    | passthrough => exact h.1
    | emulated | external => rfl
  | reattach => exact h
  | _ => trivial

theorem Reached.exists_history
    (h : Reached host.logged (fun c op => c.KeepsHistory op) first c)
    (h0 : first.bus.roster.IsApart) :
    c.bus.roster.IsApart ∧ ∃ turns, History host first c turns := by
  induction h with
  | first => exact ⟨h0, [], .first⟩
  | @after c op _ hop ih =>
    obtain ⟨hapart, turns, hturns⟩ := ih
    by_cases hel : ∃ world, op = .elapse world
    · obtain ⟨world, rfl⟩ := hel
      exact ⟨hapart, turns, hturns.elapse hop⟩
    · have hmoves : Bus.Moves host.logged op (c.bus, c.world)
          (c.bus.call host.logged c.world op).2 :=
        Bus.moves_call c.bus c.world fun world e => hel ⟨world, e⟩
      obtain ⟨hapart', row, hrow⟩ := hapart.exists_turns hmoves hop.isApart
      exact ⟨hapart', row ++ turns, hturns.after op hop hrow⟩

/-- What holds at first, is kept by every turn and by all that the host does not hear of, holds
throughout a history. -/
theorem History.keep {P : Roster (σ × HostLog) × σ × HostLog → List (HostTurn σ) → Prop}
    (h : History host first c turns) (h0 : P (first.bus.roster, first.world) [])
    (hturn : ∀ op x y t turns, Roster.TakesTurn host op x y t → P x turns → P y (t :: turns))
    (hunheard : ∀ (c : Scene (σ × HostLog)) op x y turns, c.KeepsHistory op →
      Roster.Unheard host op x y → P x turns → P y turns)
    (helapse : ∀ r s s' turns, s'.2 = s.2 → P (r, s) turns → P (r, s') turns) :
    P (c.bus.roster, c.world) turns := by
  induction h with
  | first => exact h0
  | @after c turns row op _ hop hrow ih =>
    refine Roster.Turns.rec ih ?_ ?_ hrow
    · intro y z t row _ ht hy
      exact hturn op y z t (row ++ turns) ht hy
    · intro y z row _ hm hy
      exact hunheard c op y z (row ++ turns) hop hm hy
  | elapse h hop ih => exact helapse _ _ _ _ hop ih

/-- A history tells of all calls of the host, each with the device that made it. -/
theorem History.log (h : History host first c turns) :
    c.world.2 = HostTurn.calls turns ++ first.world.2 := by
  refine h.keep (P := fun x turns => x.2.2 = HostTurn.calls turns ++ first.world.2) rfl ?_ ?_ ?_
  · intro op x y t turns ht hx
    rw [ht.took.log, hx, HostTurn.calls_cons, List.append_assoc]
  · intro c op x y turns _ hm hx
    exact hm.log.trans hx
  · intro r s s' turns hs hx
    exact hs.trans hx

/-- Nothing is left by a turn but what may come of it. -/
theorem History.exists_leaves (h : History host first c turns) :
    ∀ t ∈ turns, ∃ q, t.Leaves host q := by
  refine h.keep (P := fun _ turns => ∀ t ∈ turns, ∃ q, t.Leaves host q) (fun _ ht => nomatch ht)
    (fun op x y t turns ht hx => ?_) (fun _ _ _ _ _ _ _ hx => hx) fun _ _ _ _ _ hx => hx
  obtain ⟨q, hq, -⟩ := ht.took.left
  exact List.forall_mem_cons.2 ⟨⟨q, hq⟩, hx⟩

/-- What holds of the device with a key at first, or of one that is attached, and is kept by its own
turns and left alone by those of others, holds of it throughout a history, and did whenever it had a
turn. -/
theorem History.device {P : Passthrough → List (HostTurn σ) → Prop}
    (h : History host first c turns) {key : DeviceKey}
    (h0 : ∀ p, first.bus.roster.get? key = some (.passthrough p) → P p [])
    (hnew : first.bus.roster.entries.size ≤ key.index → ∀ (c : Scene (σ × HostLog)) p turns,
      c.KeepsHistory (.attach (.passthrough p)) → P p turns)
    (hown : ∀ t q turns, t.key = key → t.Leaves host q → P t.device turns → P q (t :: turns))
    (hother : ∀ t p turns, t.key ≠ key → P p turns → P p (t :: turns)) :
    (∀ q, c.bus.roster.get? key = some (.passthrough q) → P q turns) ∧
      ∀ t ∈ turns, t.key = key → ∃ earlier, P t.device earlier := by
  let Q (x : Roster (σ × HostLog) × σ × HostLog) (turns : List (HostTurn σ)) : Prop :=
    first.bus.roster.entries.size ≤ x.1.entries.size ∧
      (∀ p, x.1.get? key = some (.passthrough p) → P p turns) ∧
        ∀ t ∈ turns, t.key = key → ∃ earlier, P t.device earlier
  have hkeep : Q (c.bus.roster, c.world) turns := by
    refine h.keep (P := Q) ⟨Nat.le_refl _, h0, fun _ ht => nomatch ht⟩ ?_ ?_
      fun _ _ _ _ _ hx => hx
    · intro op x y t turns ht ⟨hsize, hx, hturns⟩
      obtain ⟨q, hq, hleft⟩ := ht.took.left
      have hthere (hkey : t.key = key) : P t.device turns := hx _ (hkey ▸ ht.took.there)
      refine ⟨ht.took.size ▸ hsize, fun p hp => ?_,
        List.forall_mem_cons.2 ⟨fun hkey => ⟨turns, hthere hkey⟩, hturns⟩⟩
      rcases hleft key p hp with ⟨hkey, rfl⟩ | ⟨hne, hp⟩
      · exact hown t p turns hkey.symm hq (hthere hkey.symm)
      · exact hother t p turns (Ne.symm hne) (hx p hp)
    · intro c op x y turns hop hm ⟨hsize, hx, hturns⟩
      refine ⟨hsize.trans hm.move.size_le, fun p hp => ?_, hturns⟩
      rcases hm.devices key p hp with hp | ⟨rfl, rfl⟩
      · exact hx p hp
      · exact hnew hsize c p turns hop
  exact hkeep.2

end Scene

end VirtualUsb
