import VirtualUsb.Proofs.Bus.Opened
import VirtualUsb.Proofs.Transfer.Turns

/-!
# Refused submissions

There are three reasons to refuse a submission, looked at one after another (`Bus.refusal?`).
Nothing is done before the last of them is ruled out, so a refused submission leaves all as it was,
and one that there is no reason to refuse claims an idle slot (`Scene.refusal_of_reached`).
-/

namespace VirtualUsb

namespace Bus

open TransferPool (allocate_eq_none_iff)

variable {σ : Type} (host : Host σ) {b : Bus σ} (s : σ) {op : Operation σ} {handle : Handle}

/-- The reason to refuse a submission through a handle. -/
def refusal? (b : Bus σ) (op : Operation σ) (handle : Handle) : Option UsbError :=
  if op.IsOversized then some .invalidArgument
  else if ¬ b.isOpen handle.location then some .noDevice
  else if ∀ t ∈ b.pool.slots.toList, t.busy = true then some .busy
  else none

/-- Whether a slot was idle and no other slot has changed since. -/
structure Claims (b : Bus σ) (id : TransferId) (b' : Bus σ) : Prop where
  idle : ∃ t, b.pool.get? id = some t ∧ t.busy = false
  other : ∀ i, i ≠ id.index.toNat → b'.pool.slots[i]? = b.pool.slots[i]?

/-! ## Reasons -/

section

variable (h : b.lineup.Coherent)

include h

/-- What stands in the way of a submission, with the reason that it gives to refuse it. -/
theorem refusal_cases (op : Operation σ) (handle : Handle) :
    op.IsOversized ∧ b.refusal? op handle = some .invalidArgument ∨
      ¬ op.IsOversized ∧ b.openedDevice handle = none ∧ b.refusal? op handle = some .noDevice ∨
      ¬ op.IsOversized ∧ ∃ key d, b.openedDevice handle = some (key, d) ∧
        (b.pool.allocate = none ∧ b.refusal? op handle = some .busy ∨
          ∃ r, b.pool.allocate = some r ∧ b.refusal? op handle = none) := by
  unfold refusal?
  by_cases hsize : op.IsOversized
  · exact .inl ⟨hsize, if_pos hsize⟩
  · rw [if_neg hsize]
    right
    by_cases hopen : b.isOpen handle.location
    · rw [if_neg (not_not.2 hopen)]
      obtain ⟨a, ha, hl⟩ := isOpen_iff.1 hopen
      obtain ⟨d, hd, -⟩ := exists_openedDevice h ha hl
      refine .inr ⟨hsize, a.key, d, hd, ?_⟩
      cases hslot : b.pool.allocate with
      | none => exact .inl ⟨rfl, if_pos (allocate_eq_none_iff.1 hslot)⟩
      | some r =>
        refine .inr ⟨r, rfl, if_neg fun hbusy => ?_⟩
        exact nomatch hslot.symm.trans (allocate_eq_none_iff.2 hbusy)
    · rw [if_pos hopen]
      refine .inl ⟨hsize, (openedDevice_eq_none_iff h).2 fun a ha hl => ?_, rfl⟩
      exact hopen (isOpen_iff.2 ⟨a, ha, hl⟩)

theorem allocate_of_refusal (he : b.refusal? op handle = some .busy) : b.pool.allocate = none := by
  rcases refusal_cases h op handle with
    ⟨-, e⟩ | ⟨-, -, e⟩ | ⟨-, -, -, -, ⟨hfull, -⟩ | ⟨r, -, e⟩⟩
  · exact nomatch e.symm.trans he
  · exact nomatch e.symm.trans he
  · exact hfull
  · exact nomatch e.symm.trans he

variable (hop : op.target? = some handle)

include hop

/-- A submission is refused for the first reason there is, and nothing is done. -/
theorem call_of_refusal {e : UsbError} (he : b.refusal? op handle = some e) :
    b.call host s op = (.dispatch (.error e), b, s) := by
  rcases refusal_cases h op handle with
    ⟨hsize, hreason⟩ | ⟨hsize, hnone, hreason⟩ |
      ⟨hsize, key, d, hd, ⟨hfull, hreason⟩ | ⟨r, -, hreason⟩⟩
  · obtain rfl := Option.some.inj (hreason.symm.trans he)
    exact call_of_isOversized host s hsize
  · obtain rfl := Option.some.inj (hreason.symm.trans he)
    obtain ⟨now, hcall⟩ := call_of_target (b := b) host s hop hsize
    rw [hcall, dispatch_of_openedDevice_eq_none s now _ _ hnone]
  · obtain rfl := Option.some.inj (hreason.symm.trans he)
    obtain ⟨now, hcall⟩ := call_of_target (b := b) host s hop hsize
    rw [hcall, dispatch_of_allocate_eq_none s now _ _ hd hfull]
  · exact nomatch hreason.symm.trans he

theorem exists_ok_of_refusal (he : b.refusal? op handle = none) :
    ∃ a, (b.call host s op).1 = .dispatch (.ok a) := by
  rcases refusal_cases h op handle with
    ⟨-, e⟩ | ⟨-, -, e⟩ | ⟨hsize, key, d, hd, ⟨-, e⟩ | ⟨r, hslot, -⟩⟩
  · exact nomatch e.symm.trans he
  · exact nomatch e.symm.trans he
  · exact nomatch e.symm.trans he
  · obtain ⟨now, hcall⟩ := call_of_target (b := b) host s hop hsize
    obtain ⟨a, ha⟩ := exists_ok_of_allocate s now op.isoRequest op.serve hd hslot
    rw [hcall]
    exact ⟨a, congrArg Answer.dispatch ha⟩

theorem answer_eq_error_iff {e : UsbError} :
    (b.call host s op).1 = .dispatch (.error e) ↔ b.refusal? op handle = some e := by
  cases he : b.refusal? op handle with
  | none =>
    obtain ⟨a, ha⟩ := exists_ok_of_refusal host s h hop he
    rw [ha]
    exact ⟨nofun, nofun⟩
  | some e' =>
    rw [call_of_refusal host s h hop he]
    constructor
    · intro heq
      cases heq
      rfl
    · intro heq
      cases heq
      rfl

end

/-! ## Acceptance -/

theorem claims_of_dispatch (hn : b.pool.Named) {now : UInt64} {a : Dispatch}
    (hok : (b.dispatch handle now op.isoRequest op.serve s).1 = .ok a) :
    b.Claims a.id (b.dispatch handle now op.isoRequest op.serve s).2.1 := by
  rcases dispatch_eq hn (fun _ d _ v s _ => op.id_serve d v s) now s with
    ⟨e, he⟩ | ⟨key, d, old, cursor, r, -, hold, hidle, -, he⟩
  · rw [he] at hok
    exact nomatch hok
  · rw [he] at hok ⊢
    obtain rfl := Except.ok.inj hok
    refine ⟨⟨old, hold, hidle⟩, fun i hi => ?_⟩
    exact Array.getElem?_setIfInBounds_ne (Ne.symm hi)

theorem claims_of_ok (hn : b.pool.Named) (hop : op.target? = some handle) {a : Dispatch}
    (hok : (b.call host s op).1 = .dispatch (.ok a)) :
    b.Claims a.id (b.call host s op).2.1 := by
  by_cases hsize : op.IsOversized
  · rw [call_of_isOversized host s hsize] at hok
    exact nomatch Answer.dispatch.inj hok
  · obtain ⟨now, hcall⟩ := call_of_target host s hop hsize
    rw [hcall] at hok ⊢
    exact claims_of_dispatch s hn (Answer.dispatch.inj hok)

end Bus

namespace Scene

variable {σ : Type} {host : Host σ} {allowed : Scene σ → Operation σ → Prop}

/-- **A refused submission leaves no trace.** Whatever calls were made of a new bus, a submission is
refused for the first reason there is and for no other, and nothing has changed then. A slot may be
searched for by moving the note of the last slot handed out, as nothing else comes of that: in a
pool without an idle slot it is brought back to where it was. A submission that there is no reason
to refuse claims a slot that was idle, and changes no other. -/
theorem refusal_of_reached {n : Nat} (hn : n ≤ UInt32.size) {latency : UInt64} {memory : Memory}
    {world : σ} {c : Scene σ} (h : Reached host allowed ⟨Bus.empty n latency memory, world, []⟩ c)
    {op : Operation σ} {handle : Handle} (hop : op.target? = some handle) :
    (∀ e, (c.bus.call host c.world op).1 = .dispatch (.error e) ↔
      c.bus.refusal? op handle = some e) ∧
    (∀ e, c.bus.refusal? op handle = some e →
      c.bus.call host c.world op = (.dispatch (.error e), c.bus, c.world)) ∧
    (c.bus.pool.probe c.bus.pool.capacity =
      c.bus.pool.allocate.elim (none, c.bus.pool) fun r => (some r.1, r.2)) ∧
    (c.bus.refusal? op handle = some .busy →
      c.bus.pool.probe c.bus.pool.capacity = (none, c.bus.pool)) ∧
    (c.bus.refusal? op handle = none → ∃ a, (c.bus.call host c.world op).1 = .dispatch (.ok a) ∧
      c.bus.Claims a.id (c.bus.call host c.world op).2.1) := by
  have hcoherent := (h.settled (Bus.settled_empty n latency memory)).lineup.toCoherent
  have hnamed := h.named (TransferPool.named_ofCapacity hn)
  have hturn : c.bus.pool.OnTurn := by
    obtain ⟨ms, hcourse, -⟩ := course_of_reached h (TransferPool.named_ofCapacity hn)
    exact hcourse.onTurn (TransferPool.onTurn_ofCapacity n)
  refine ⟨fun e => Bus.answer_eq_error_iff host c.world hcoherent hop,
    fun e => Bus.call_of_refusal host c.world hcoherent hop, TransferPool.probe_eq hturn,
    fun hbusy => ?_, fun hnone => ?_⟩
  · rw [TransferPool.probe_eq hturn, Bus.allocate_of_refusal hcoherent hbusy]
    rfl
  · obtain ⟨a, ha⟩ := Bus.exists_ok_of_refusal host c.world hcoherent hop hnone
    exact ⟨a, ha, Bus.claims_of_ok host c.world hnamed hop ha⟩

/-! ### A bus without an idle slot -/

/-- A transfer to the only device of a small bus. -/
def oneMore : Operation Unit := .submitInterrupt default 129 ⟨0, 8⟩ 0

/-- The bus with one device of the host, after a transfer was submitted for each of its slots. -/
def full : Scene Unit := (plugged.after .obliging oneMore).after .obliging oneMore

theorem refusal_of_full :
    full.bus.call .obliging () oneMore = (.dispatch (.error .busy), full.bus, ()) ∧
      full.bus.pool.probe 2 = (none, full.bus.pool) := by
  have hfull : Reached .obliging (fun c op => c.bus.AttachesClosed op) blank full :=
    (reached_plugged.after oneMore trivial).after oneMore trivial
  have htarget : oneMore.target? = some default := rfl
  obtain ⟨-, hrefused, -, hround, -⟩ := refusal_of_reached (by decide) hfull htarget
  have hbusy : full.bus.refusal? oneMore default = some .busy := by decide
  exact ⟨hrefused .busy hbusy, hround hbusy⟩

end Scene

end VirtualUsb
