import VirtualUsb.Proofs.Transfer.Submission

/-!
# Taking turns

The search for an idle slot starts after the one handed out last, so that the slots take turns: from
one time that a slot is handed out to the next, every other slot is handed out or is busy at some
moment (`TransferPool.fair_of_course`). A bus uses its pool in that way whatever is called
(`Scene.course_of_reached`), so the same holds of the transfers that it accepts
(`Scene.fair_of_reached`).
-/

namespace VirtualUsb.TransferPool

variable {p q : TransferPool} {t : Transfer} {i j : Nat}

/-! ## Going round -/

/-- The search goes through the slots after the one handed out last, and then through the others up
to that one itself. -/
theorem round_eq_append (h : p.cursor < p.capacity) :
    p.round = List.range' (p.cursor + 1) (p.capacity - (p.cursor + 1)) ++
      List.range (p.cursor + 1) := by
  rw [round, List.rotate_eq_drop_append_take (by rw [List.length_range]; exact h), List.take_range,
    Nat.min_eq_left h, List.range_eq_range' (n := p.capacity), List.drop_range', Nat.zero_add,
    Nat.mul_one]

/-- How many slots on from one slot another comes, if one goes round. A slot comes again after all
the others. -/
def stepsTo (n i j : Nat) : Nat := if i < j then j - i else j + n - i

theorem stepsTo_pos {n : Nat} (hi : i < n) : 0 < stepsTo n i j := by
  unfold stepsTo
  split <;> omega

theorem add_stepsTo {n : Nat} (hi : i < n) (hj : j < n) : (i + stepsTo n i j) % n = j := by
  unfold stepsTo
  split
  · rw [Nat.add_sub_cancel' (Nat.le_of_lt ‹_›), Nat.mod_eq_of_lt hj]
  · rw [show i + (j + n - i) = j + n by omega, Nat.add_mod_right, Nat.mod_eq_of_lt hj]

theorem stepsTo_add {n k : Nat} (hi : i < n) (hk : k < n) : stepsTo n i ((i + 1 + k) % n) = k + 1 := by
  unfold stepsTo
  rcases Nat.lt_or_ge (i + 1 + k) n with h | h
  · rw [Nat.mod_eq_of_lt h]
    split <;> omega
  · rw [Nat.mod_eq_sub_mod h, Nat.mod_eq_of_lt (by omega)]
    split <;> omega

theorem OnTurn.cursor_lt (hp : p.OnTurn) (h : 0 < p.capacity) : p.cursor < p.capacity := by
  have := Nat.mod_lt p.cursor h
  rwa [show p.cursor % p.capacity = p.cursor from hp] at this

/-- The search does not go past an idle slot. -/
theorem stepsTo_le_of_isIdle (hp : p.OnTurn) (h : p.allocate = some (t, q))
    (hj : p.isIdle j = true) :
    q.cursor < p.capacity ∧
      stepsTo p.capacity p.cursor q.cursor ≤ stepsTo p.capacity p.cursor j := by
  obtain ⟨i, old, hfirst, hold, -, rfl⟩ := allocate_eq_some_iff.1 h
  obtain ⟨-, k, hk, rfl, hbefore⟩ := List.find?_eq_some_iff_getElem.1 hfirst
  have hj' : j < p.capacity := by
    obtain ⟨u, hu, -⟩ := isIdle_iff.1 hj
    exact (Array.getElem?_eq_some_iff.1 hu).1
  have hc : p.cursor < p.capacity := hp.cursor_lt (Nat.zero_lt_of_lt hj')
  have hk' : k < p.capacity := p.length_round ▸ hk
  refine ⟨(Array.getElem?_eq_some_iff.1 hold).1, ?_⟩
  show stepsTo p.capacity p.cursor p.round[k] ≤ _
  rw [getElem_round, stepsTo_add hc hk']
  by_contra hlt
  -- the idle slot stands before the one that was found
  have hpos := stepsTo_pos (j := j) hc
  have hlt' : stepsTo p.capacity p.cursor j - 1 < k := by omega
  have hidle := hbefore _ hlt'
  rw [getElem_round, show p.cursor + 1 + (stepsTo p.capacity p.cursor j - 1) =
    p.cursor + stepsTo p.capacity p.cursor j by omega, add_stepsTo hc hj', hj] at hidle
  exact nomatch hidle

/-! ## A pool in use -/

/-- A step of a pool in use, with the slot that is handed out, if one is. Whatever else happens to
the slots, only handing one out moves the note of the last. -/
inductive Turn (p : TransferPool) : Option Nat → TransferPool → Prop
  | kept {q : TransferPool} (cursor : q.cursor = p.cursor) (capacity : q.capacity = p.capacity) :
      Turn p none q
  | handedOut {t : Transfer} {r q : TransferPool} (allocate : p.allocate = some (t, r))
      (cursor : q.cursor = r.cursor) (capacity : q.capacity = p.capacity) : Turn p (some r.cursor) q

/-- What a pool is after a step, and the slot that the step has handed out. -/
structure Moment where
  given : Option Nat
  pool : TransferPool

/-- The moments that a pool in use goes through, the latest last. -/
inductive Course (p : TransferPool) : List Moment → TransferPool → Prop
  | rest : Course p [] p
  | step {ms : List Moment} {q r : TransferPool} {given : Option Nat} (course : Course p ms q)
      (turn : Turn q given r) : Course p (ms ++ [⟨given, r⟩]) r

theorem capacity_of_allocate (h : p.allocate = some (t, q)) : q.capacity = p.capacity := by
  obtain ⟨i, old, -, -, -, rfl⟩ := allocate_eq_some_iff.1 h
  exact Array.size_setIfInBounds

/-- In a named pool the slot handed out is the one that the claimed transfer is named for. -/
theorem index_of_allocate (hp : p.Named) (h : p.allocate = some (t, q)) :
    t.id.index.toNat = q.cursor := by
  obtain ⟨i, old, -, hold, rfl, rfl⟩ := allocate_eq_some_iff.1 h
  exact hp i old hold

theorem Turn.capacity_eq {given : Option Nat} (h : Turn p given q) : q.capacity = p.capacity := by
  cases h with
  | kept _ hcapacity => exact hcapacity
  | handedOut _ _ hcapacity => exact hcapacity

theorem Turn.exists_allocate (h : Turn p (some i) q) :
    ∃ t r, p.allocate = some (t, r) ∧ r.cursor = i ∧ q.cursor = i := by
  cases h with
  | handedOut hallocate hcursor _ => exact ⟨_, _, hallocate, rfl, hcursor⟩

theorem Turn.onTurn {given : Option Nat} (h : Turn p given q) (hp : p.OnTurn) : q.OnTurn := by
  cases h with
  | kept hcursor hcapacity => exact hp.congr hcursor hcapacity
  | handedOut hallocate hcursor hcapacity =>
    exact (onTurn_allocate hallocate).congr hcursor
      (hcapacity.trans (capacity_of_allocate hallocate).symm)

theorem Course.onTurn {ms : List Moment} (h : Course p ms q) (hp : p.OnTurn) : q.OnTurn := by
  induction h with
  | rest => exact hp
  | step _ hturn ih => exact hturn.onTurn ih

theorem Course.capacity_eq {ms : List Moment} (h : Course p ms q) : q.capacity = p.capacity := by
  induction h with
  | rest => rfl
  | step _ hturn ih => exact hturn.capacity_eq.trans ih

/-- Whether a slot is short of another, seen from a third: one that goes round from the third comes
to it first, or has not yet set out. -/
def ShortOf (n i j c : Nat) : Prop := c = i ∨ stepsTo n i c < stepsTo n i j

/-- Who is short of a slot and does not go past it either arrives there or is short of it still, and
is not back where it started. -/
theorem ShortOf.next {n c c' : Nat} (hi : i < n) (hj : j < n) (hij : j ≠ i) (hc : c < n)
    (hc' : c' < n) (h : ShortOf n i j c) (hle : stepsTo n c c' ≤ stepsTo n c j) :
    c' = j ∨ c' ≠ i ∧ ShortOf n i j c' := by
  unfold ShortOf stepsTo at *
  grind

/-- Whether a slot was handed out at a moment, or was busy. -/
def Moment.Touches (m : Moment) (j : Nat) : Prop :=
  m.given = some j ∨ ∃ t, m.pool.slots[j]? = some t ∧ t.busy = true

theorem isIdle_of_not_busy (hj : j < p.capacity)
    (h : ¬ ∃ t, p.slots[j]? = some t ∧ t.busy = true) : p.isIdle j = true := by
  have ht : p.slots[j]? = some p.slots[j] := Array.getElem?_eq_getElem hj
  exact isIdle_iff.2 ⟨_, ht, Bool.eq_false_iff.2 fun hbusy => h ⟨_, ht, hbusy⟩⟩

theorem ShortOf.turn (hp : p.OnTurn) (hi : i < p.capacity) (hj : j < p.capacity) (hij : j ≠ i)
    (h : ShortOf p.capacity i j p.cursor) (hidle : p.isIdle j = true) {given : Option Nat}
    (hturn : Turn p given q) (hgiven : given ≠ some j) : ShortOf q.capacity i j q.cursor := by
  rw [hturn.capacity_eq]
  cases hturn with
  | kept hcursor _ => rwa [hcursor]
  | handedOut hallocate hcursor _ =>
    obtain ⟨hlt, hle⟩ := stepsTo_le_of_isIdle hp hallocate hidle
    have hc : p.cursor < p.capacity := hp.cursor_lt (Nat.zero_lt_of_lt hj)
    rw [hcursor]
    exact ((h.next hi hj hij hc hlt hle).resolve_left fun e => hgiven (congrArg some e)).2

/-- As long as a slot is idle and is not handed out, the search stays short of it. -/
theorem ShortOf.course (h : ShortOf p.capacity i j p.cursor) (hp : p.OnTurn) (hi : i < p.capacity)
    (hj : j < p.capacity) (hij : j ≠ i) (hidle : p.isIdle j = true) {ms : List Moment}
    (hcourse : Course p ms q) (hms : ∀ m ∈ ms, ¬ m.Touches j) :
    ShortOf q.capacity i j q.cursor ∧ q.isIdle j = true := by
  induction hcourse with
  | rest => exact ⟨h, hidle⟩
  | @step ms q r given hcourse hturn ih =>
    obtain ⟨hshort, hidle⟩ := ih fun m hm => hms m (List.mem_append_left _ hm)
    obtain ⟨hgiven, hbusy⟩ := not_or.1 (hms _ (List.mem_append_right _ (List.mem_singleton_self _)))
    rw [← hcourse.capacity_eq] at hi hj
    exact ⟨hshort.turn (hcourse.onTurn hp) hi hj hij hidle hturn hgiven,
      isIdle_of_not_busy (hturn.capacity_eq.symm ▸ hj) hbusy⟩

/-- From one time that a slot is handed out to the next, every other slot is handed out or busy at
some moment. -/
theorem touched_of_course (hp : p.OnTurn) (h : Turn p (some i) q) {ms : List Moment}
    {r r' : TransferPool} (hcourse : Course q ms r) (hagain : Turn r (some i) r')
    (hj : j < p.capacity) (hij : j ≠ i) : ∃ m ∈ ⟨some i, q⟩ :: ms, m.Touches j := by
  have hq := h.onTurn hp
  rw [← h.capacity_eq] at hj
  obtain ⟨-, -, -, -, rfl⟩ := h.exists_allocate
  have hi : q.cursor < q.capacity := hq.cursor_lt (Nat.zero_lt_of_lt hj)
  by_contra hnone
  have hms : ∀ m ∈ ms, ¬ m.Touches j := fun m hm ht => hnone ⟨m, List.mem_cons_of_mem _ hm, ht⟩
  have hidle : q.isIdle j = true := isIdle_of_not_busy hj fun hbusy =>
    hnone ⟨_, List.mem_cons_self .., .inr hbusy⟩
  obtain ⟨hshort, hlast⟩ := ShortOf.course (.inl rfl) hq hi hj hij hidle hcourse hms
  have hr := hcourse.onTurn hq
  rw [← hcourse.capacity_eq] at hi hj
  -- so the second search finds this slot first
  obtain ⟨u, s, hslot, hs, -⟩ := hagain.exists_allocate
  obtain ⟨hlt, hle⟩ := stepsTo_le_of_isIdle hr hslot hlast
  rcases hshort.next hi hj hij (hr.cursor_lt (Nat.zero_lt_of_lt hj)) hlt hle with e | ⟨hne, -⟩
  · exact hij (e.symm.trans hs)
  · exact hne hs

/-- **The slots take turns.** A pool hands out the first idle slot that comes in its order, which
goes round from the slot after the one handed out last to that one itself. The slot is blank but for
its name and busy, whatever it held, and no other slot changes. A pool hands out none just if every
slot is busy. A search that moves the note of the last slot handed out comes to the same: it brings
the note back to where it was if no slot is idle. So, however the slots change besides, from one
time that a slot is handed out to the next every other slot is handed out as well, or is busy at
some moment. -/
theorem fair_of_course (hp : p.OnTurn) :
    (0 < p.capacity → p.round = List.range' (p.cursor + 1) (p.capacity - (p.cursor + 1)) ++
      List.range (p.cursor + 1)) ∧
    (∀ t q, p.allocate = some (t, q) ↔ ∃ i old, p.round.find? p.isIdle = some i ∧
      p.slots[i]? = some old ∧ t = { id := old.id, busy := true } ∧
        q = ⟨p.slots.setIfInBounds i t, i⟩) ∧
    (p.allocate = none ↔ ∀ t ∈ p.slots.toList, t.busy = true) ∧
    (p.probe p.capacity = p.allocate.elim (none, p) fun r => (some r.1, r.2)) ∧
    ∀ i q, Turn p (some i) q → ∀ ms r, Course q ms r → ∀ r', Turn r (some i) r' →
      ∀ j < p.capacity, j ≠ i → ∃ m ∈ ⟨some i, q⟩ :: ms, m.Touches j := by
  refine ⟨fun h => round_eq_append (hp.cursor_lt h), fun _ _ => allocate_eq_some_iff,
    allocate_eq_none_iff, probe_eq hp, ?_⟩
  exact fun i q h ms r hcourse r' hagain j hj hij => touched_of_course hp h hcourse hagain hj hij

/-- A pool of two idle slots, one of which was handed out last. -/
def pair (cursor : Nat) : TransferPool := { ofCapacity 2 with cursor }

theorem fair_of_pair : (pair 0).OnTurn ∧ ∃ q ms, Turn (pair 0) (some 1) q ∧ Course q ms (pair 0) ∧
    ∃ m ∈ ⟨some 1, q⟩ :: ms, m.Touches 0 := by
  have hp : (pair 0).OnTurn := rfl
  obtain ⟨-, -, -, -, hfair⟩ := fair_of_course hp
  have hfirst : (pair 0).allocate = some ({ id := ⟨1⟩, busy := true },
      ⟨#[{ id := ⟨0⟩ }, { id := ⟨1⟩, busy := true }], 1⟩) := by decide
  have hnext : (pair 1).allocate = some ({ id := ⟨0⟩, busy := true },
      ⟨#[{ id := ⟨0⟩, busy := true }, { id := ⟨1⟩ }], 0⟩) := by decide
  -- the first slot to be handed out ends, then the other is handed out and ends
  have hturn : Turn (pair 0) (some 1) ⟨#[{ id := ⟨0⟩ }, { id := ⟨1⟩, busy := true }], 1⟩ :=
    .handedOut hfirst rfl rfl
  have hended : Turn ⟨#[{ id := ⟨0⟩ }, { id := ⟨1⟩, busy := true }], 1⟩ none (pair 1) :=
    .kept rfl rfl
  have hother : Turn (pair 1) (some 0) (pair 0) := .handedOut hnext rfl rfl
  have hcourse := (Course.rest.step hended).step hother
  exact ⟨hp, _, _, hturn, hcourse,
    hfair 1 _ hturn _ _ hcourse _ hturn 0 (by decide) (by decide)⟩

end VirtualUsb.TransferPool

namespace VirtualUsb

/-! ## The pool of a bus -/

open TransferPool

/-- The slot that a call has handed out, if it was accepted as a transfer. -/
def Past.slot? {σ : Type} (x : Operation σ × Answer) : Option Nat :=
  (acceptedBy x).map (·.2.id.index.toNat)

theorem Past.slot?_of_ok {σ : Type} {op : Operation σ} {kind : TransferKind} {d : Dispatch}
    (h : op.submits = some kind) :
    slot? (op, .dispatch (.ok d)) = some d.id.index.toNat :=
  congrArg (Option.map _) (acceptedBy_of_ok h)

namespace Bus

variable {σ : Type} (host : Host σ) {b : Bus σ} (s : σ) {op : Operation σ}

theorem turn_dispatch (hn : b.pool.Named) {kind : TransferKind} (hop : op.submits = some kind)
    (handle : Handle) (now : UInt64) (iso : IsoRequest)
    (serve : Device σ → Service → σ → Device σ × Service × σ) :
    let r := b.dispatch handle now iso serve s
    b.pool.Turn (Past.slot? (op, .dispatch r.1)) r.2.1.pool := by
  unfold dispatch
  split
  · exact .kept rfl rfl
  · split
    · exact .kept rfl rfl
    · rename_i t pool hslot
      refine (?_ : Turn _ (Past.slot? (op, .dispatch (.ok _))) _)
      rw [Past.slot?_of_ok hop, index_of_allocate hn hslot]
      exact .handedOut hslot rfl ((capacity_set _ _ _).trans (capacity_of_allocate hslot))

/-- Each call is a step of the pool that hands out the slot of the transfer it is accepted as. -/
theorem turn_call (hn : b.pool.Named) (op : Operation σ) :
    b.pool.Turn (Past.slot? (op, (b.call host s op).1)) (b.call host s op).2.1.pool := by
  cases hsub : op.submits with
  | some kind =>
    obtain ⟨handle, htarget⟩ := op.target?_of_submits hsub
    by_cases hsize : op.IsOversized
    · rw [call_of_isOversized host s hsize]
      exact .kept rfl rfl
    · obtain ⟨now, hcall⟩ := call_of_target (b := b) host s htarget hsize
      rw [hcall]
      exact turn_dispatch s hn hsub handle now _ _
  | none =>
    have heffect := effect_of_submits_none host (b := b) s hsub
    rw [Past.slot?, Past.acceptedBy_of_submits_none hsub]
    show Turn _ none _
    generalize (b.call host s op).1 = a, (b.call host s op).2.1 = b' at heffect ⊢
    cases heffect with
    | quiet _ hq | attached hq =>
      rw [hq.pool]
      exact .kept rfl rfl
    | refused => exact .kept rfl rfl
    | accepted hop => exact nomatch hsub.symm.trans hop
    | reported _ _ hq =>
      rw [hq.pool]
      exact .kept rfl (capacity_set _ _ _)
    | failed => exact .kept rfl (capacity_set _ _ _)
    | pumped now =>
      show Turn _ none (b.agenda.pump b.pool now).pool
      rw [Agenda.pump_eq]
      exact .kept rfl (capacity_expireAt _ _)
    | stored => exact .kept rfl rfl

end Bus

namespace Scene

variable {σ : Type} {host : Host σ} {allowed : Scene σ → Operation σ → Prop} {first c : Scene σ}

/-- Whether a moment of a pool is one of a run of the bus, after some call. -/
def Shows (host : Host σ) (allowed : Scene σ → Operation σ → Prop) (first last : Scene σ)
    (m : Moment) : Prop :=
  ∃ c op, Reached host allowed first c ∧ allowed c op ∧ Reached host allowed (c.after host op) last ∧
    m = ⟨Past.slot? (op, (c.bus.call host c.world op).1), (c.after host op).bus.pool⟩

/-- A run of the bus takes its pool through a row of steps, one to each call. -/
theorem course_of_reached (h : Reached host allowed first c) (hn : first.bus.pool.Named) :
    ∃ ms, Course first.bus.pool ms c.bus.pool ∧ ∀ m ∈ ms, Shows host allowed first c m := by
  induction h with
  | first => exact ⟨[], .rest, nofun⟩
  | @after c op hc ha ih =>
    obtain ⟨ms, hcourse, hms⟩ := ih
    refine ⟨_, hcourse.step (Bus.turn_call host c.world (hc.named hn) op), fun m hm => ?_⟩
    rcases List.mem_append.1 hm with hm | hm
    · obtain ⟨c', op', hc', ha', hlast, rfl⟩ := hms m hm
      exact ⟨c', op', hc', ha', hlast.after op ha, rfl⟩
    · obtain rfl := List.mem_singleton.1 hm
      exact ⟨c, op, hc, ha, .first, rfl⟩

/-- From one transfer that a bus accepts in a slot to the next, every other slot serves an accepted
transfer too, or is busy at some time. -/
theorem fair_of_reached {n : Nat} (hn : n ≤ UInt32.size) {latency : UInt64} {memory : Memory}
    {world : σ} {c₁ c₂ : Scene σ}
    (h₁ : Reached host allowed ⟨Bus.empty n latency memory, world, []⟩ c₁) {op₁ op₂ : Operation σ}
    {i j : Nat} (hfirst : Past.slot? (op₁, (c₁.bus.call host c₁.world op₁).1) = some i)
    (h₂ : Reached host allowed (c₁.after host op₁) c₂)
    (hagain : Past.slot? (op₂, (c₂.bus.call host c₂.world op₂).1) = some i) (hj : j < n)
    (hij : j ≠ i) :
    (∃ c op, Reached host allowed (c₁.after host op₁) c ∧
      Past.slot? (op, (c.bus.call host c.world op).1) = some j ∧
        Reached host allowed (c.after host op) c₂) ∨
    ∃ c t, Reached host allowed (c₁.after host op₁) c ∧ Reached host allowed c c₂ ∧
      c.bus.pool.slots[j]? = some t ∧ t.busy = true := by
  have hnamed : Named (Bus.empty n latency memory : Bus σ).pool := named_ofCapacity hn
  obtain ⟨ms₁, hcourse₁, -⟩ := course_of_reached h₁ hnamed
  have hturn := Bus.turn_call host c₁.world (h₁.named hnamed) op₁
  rw [hfirst] at hturn
  have hany : Reached host (fun _ _ => True) ⟨Bus.empty n latency memory, world, []⟩ c₁ :=
    h₁.mono fun _ _ _ => trivial
  have hnamed₁ : (c₁.after host op₁).bus.pool.Named := (hany.after op₁ trivial).named hnamed
  obtain ⟨ms, hcourse, hms⟩ := course_of_reached h₂ hnamed₁
  have hturn' := Bus.turn_call host c₂.world (h₂.named hnamed₁) op₂
  rw [hagain] at hturn'
  have hj' : j < c₁.bus.pool.capacity :=
    lt_of_lt_of_eq hj (hcourse₁.capacity_eq.trans (capacity_ofCapacity n)).symm
  obtain ⟨m, hm, htouches⟩ := touched_of_course (hcourse₁.onTurn (onTurn_ofCapacity n)) hturn
    hcourse hturn' hj' hij
  rcases List.mem_cons.1 hm with rfl | hm
  · rcases htouches with he | ⟨t, ht, hbusy⟩
    · exact absurd (Option.some.inj he).symm hij
    · exact .inr ⟨_, t, .first, h₂, ht, hbusy⟩
  · obtain ⟨c, op, hc, ha, hlast, rfl⟩ := hms m hm
    rcases htouches with he | ⟨t, ht, hbusy⟩
    · exact .inl ⟨c, op, hc, he, hlast⟩
    · exact .inr ⟨_, t, hc.after op ha, hlast, ht, hbusy⟩

end Scene

end VirtualUsb
