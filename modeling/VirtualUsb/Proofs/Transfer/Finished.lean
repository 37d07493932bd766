import VirtualUsb.Proofs.Transfer.Release

/-!
# Finished transfers

After its transfer has ended, a slot stays as it is until it is given away again: a late answer of
the host finds no transfer that waits, and a pump finds no scheduled end
(`Scene.Reached.get?_of_idle`). So a guest that has read that a transfer is no longer busy reads
the same from then on (`Scene.results_of_idle`).
-/

namespace VirtualUsb

/-- Whether a call gives a slot away: it is accepted as a transfer of that name. -/
def Scene.GivesAway {σ : Type} (host : Host σ) (c : Scene σ) (op : Operation σ)
    (id : TransferId) : Prop :=
  ∃ a, (c.bus.call host c.world op).1 = .dispatch (.ok a) ∧ a.id = id

/-- Whether a guest reads the same of a transfer from two buses. -/
structure Bus.SameResults {σ : Type} (b b' : Bus σ) (id : TransferId) : Prop where
  transferResult : b'.transferResult id = b.transferResult id
  isoResult : b'.isoResult id = b.isoResult id

theorem Bus.sameResults_of_get? {σ : Type} {b b' : Bus σ} {id : TransferId}
    (h : b'.pool.get? id = b.pool.get? id) : b.SameResults b' id := by
  refine ⟨?_, ?_⟩
  · unfold transferResult
    rw [h]
  · unfold isoResult
    rw [h]

namespace Scene

variable {σ : Type} {host : Host σ} {c : Scene σ} {id : TransferId}

/-- Whatever devices there are, a slot whose transfer has ended stays as it is until it is given
away. -/
theorem Reached.get?_of_idle {first : Scene σ}
    (h : Reached host (fun c op => ¬ c.GivesAway host op id) first c)
    (hn : first.bus.pool.Named) {t : Transfer} (ht : first.bus.pool.get? id = some t)
    (hidle : t.busy = false) (hs : t.scheduled = none) : c.bus.pool.get? id = some t := by
  induction h with
  | first => exact ht
  | after op hc hop ih =>
    refine Bus.get?_call_of_unscheduled host (hc.named hn) ih hs (fun kind a ha hid => ?_)
      fun _ => hidle
    exact hop ⟨a, (Past.eq_of_acceptedBy ha).2, hid⟩

/-- As long as it is not given away, a slot that waited for the host waits on as it was, or an
answer has ended its transfer and it has been so since. -/
theorem Reached.waits_or_ended {first : Scene σ}
    (h : Reached host (fun c op => ¬ c.GivesAway host op id) first c)
    (hn : first.bus.pool.Named) {t : Transfer} (ht : first.bus.pool.get? id = some t)
    (hw : Bus.awaitsHost t = true) :
    (Reached host (fun _ op => ¬ op.Answers id) first c ∧ c.bus.pool.get? id = some t) ∨
      ∃ c₁ op, Reached host (fun _ op => ¬ op.Answers id) first c₁ ∧ op.Answers id ∧
        Reached host (fun c op => ¬ c.GivesAway host op id) (c₁.after host op) c ∧
        c.bus.pool.get? id = some (t.endedBy op) := by
  induction h with
  | first => exact .inl ⟨.first, ht⟩
  | @after c op hc hop ih =>
    have hnamed := hc.named hn
    rcases ih with ⟨hrun, hget⟩ | ⟨c₁, answer, hrun, hans, hsince, hget⟩
    · by_cases ha : op.Answers id
      · exact .inr ⟨c, op, hrun, ha, .first, Bus.get?_call_of_answers host hget hw ha⟩
      · exact .inl ⟨hrun.after op ha, Bus.get?_call_of_awaitsHost host hnamed hget hw ha⟩
    · refine .inr ⟨c₁, answer, hrun, hans, hsince.after op hop, ?_⟩
      exact (Reached.first.after op hop).get?_of_idle hnamed hget (t.busy_endedBy hans)
        (t.scheduled_endedBy hans (Bus.awaitsHost_iff.1 hw).2)

/-- **Results stay.** Whatever calls were made of a new bus with built-in devices, once a guest
reads that a transfer is not busy, a call that does not give its slot away leaves both of its
results as they are: a late or second answer of the host for the slot, a pump at any time, a
submission under another name or one that fails. So the guest reads the same after any run of such
calls. -/
theorem results_of_idle {n : Nat} (hn : n ≤ UInt32.size) {latency : UInt64} {memory : Memory}
    {world : σ} (h : Reached host (fun _ op => op.BringsBuiltIn)
      ⟨Bus.empty n latency memory, world, []⟩ c) {r : TransferResult}
    (hr : c.bus.transferResult id = .ok r) (hidle : r.busy = false) :
    (∀ op : Operation σ, op.BringsBuiltIn → ¬ c.GivesAway host op id →
      c.bus.SameResults (c.after host op).bus id) ∧
    ∀ c', Reached host (fun c op => op.BringsBuiltIn ∧ ¬ c.GivesAway host op id) c c' →
      c.bus.SameResults c'.bus id := by
  have hposted := h.posted (Bus.posted_empty hn latency memory)
  obtain ⟨t, ht, rfl⟩ : ∃ t, c.bus.pool.get? id = some t ∧ t.result = r := by
    unfold Bus.transferResult at hr
    split at hr
    · exact nomatch hr
    · rename_i t ht
      exact ⟨t, ht, Except.ok.inj hr⟩
  have hrun (c' : Scene σ)
      (hc' : Reached host (fun c op => op.BringsBuiltIn ∧ ¬ c.GivesAway host op id) c c') :
      c.bus.SameResults c'.bus id := by
    have ht' := (hc'.mono fun _ _ => And.right).get?_of_idle hposted.named ht hidle
      (hposted.idle id t ht hidle)
    exact Bus.sameResults_of_get? (ht'.trans ht.symm)
  exact ⟨fun op hop hno => hrun _ (Reached.first.after op ⟨hop, hno⟩), hrun⟩

/-! ### Late answers -/

/-- The host has reported the end of an interrupt transfer. -/
def reported : Scene Unit :=
  (plugged.after .obliging (.submitInterrupt default 129 ⟨0, 8⟩ 0)).after .obliging
    (.complete { id := ⟨1⟩, kind := .interrupt, status := .stall, actualLength := 3, buffer := [] })

theorem reached_reported :
    Reached Host.obliging (fun _ op => op.BringsBuiltIn) blank reported :=
  (((Reached.first.after _ (Device.isBuiltIn_passthrough _)).after _ trivial).after _ trivial).after
    _ trivial

/-- The host reports that end once more and otherwise, then refuses the transfer; the agenda is
pumped and the other slot is given away. -/
def overtaken : Scene Unit :=
  ((((reported.after .obliging (.complete
    { id := ⟨1⟩, kind := .interrupt, status := .completed, actualLength := 8, buffer := [] })).after
    .obliging (.fail ⟨1⟩ .io)).after .obliging (.pump 500)).after .obliging
      (.submitInterrupt default 129 ⟨0, 8⟩ 0))

/-- None of that changes what the guest reads. -/
theorem results_of_reported :
    reported.bus.transferResult ⟨1⟩ = .ok ⟨false, .stall, 3⟩ ∧
      reported.bus.SameResults overtaken.bus ⟨1⟩ := by
  have h1 : Reached Host.obliging
      (fun c op => op.BringsBuiltIn ∧ ¬ c.GivesAway .obliging op ⟨1⟩) reported _ :=
    Reached.first.after (.complete
      { id := ⟨1⟩, kind := .interrupt, status := .completed, actualLength := 8, buffer := [] })
      ⟨trivial, fun ⟨_, ha, _⟩ => nomatch ha⟩
  have h2 := h1.after (.fail ⟨1⟩ .io) ⟨trivial, fun ⟨_, ha, _⟩ => nomatch ha⟩
  have h3 := h2.after (.pump 500) ⟨trivial, fun ⟨_, ha, _⟩ => nomatch ha⟩
  have h4 := h3.after (.submitInterrupt default 129 ⟨0, 8⟩ 0) ⟨trivial, fun ⟨a, ha, hid⟩ => by
    obtain rfl := Except.ok.inj (Answer.dispatch.inj ha)
    exact nomatch hid⟩
  exact ⟨rfl, (results_of_idle (by decide) reached_reported rfl rfl).2 overtaken h4⟩

end Scene

end VirtualUsb
