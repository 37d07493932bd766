import VirtualUsb.Proofs.Controller.Run
import VirtualUsb.Proofs.Transfer.Deadline

/-!
# The life of an emulated transfer

On a controller, a transfer that an emulated device answers is busy until the first poll that reads
a time at which it is due, and has ended right after that poll (`Controller.answered_until_due`).
-/

namespace VirtualUsb

theorem Bus.Pends.keptByCalls {σ : Type} (id : TransferId) (due : UInt64) (count : UInt32) :
    Controller.KeptByCalls fun b : Bus σ => b.Pends id due count :=
  fun _ host s _ hop h => h.call host s fun now e => absurd e (hop now)

namespace Controller

variable {σ : Type} {c : Controller σ} {s : σ}

/-- A transfer that was accepted, but is not meant for the host, is left as the bus has it. -/
theorem bus_followUp_of_ok {r : Except UsbError Dispatch × Bus σ × σ} {id : TransferId}
    (hacc : (c.followUp r).1.toOption = some id) (hr : ∀ d, r.1 = .ok d → d.submission = none) :
    ∃ d, r.1 = .ok d ∧ d.id = id ∧ (c.followUp r).2.1.bus = r.2.1 := by
  obtain ⟨_ | d, b, s⟩ := r
  · exact nomatch hacc
  · refine ⟨d, rfl, Option.some.inj hacc, ?_⟩
    show ({ c with bus := b }.handOver d s).1.bus = b
    unfold handOver
    rw [hr d rfl]

theorem pends_act {a : Action σ} {op : Operation σ} {t : UInt64} {n : Nat} {id : TransferId}
    (hn : c.bus.pool.Named) (hreq : c.request s a = some op) (hans : c.bus.Answered s op t n)
    (hacc : (c.act s a).1 = some id) :
    (c.act s a).2.1.bus.Pends id (Time.after t c.bus.latency.toNat) (clampCount n) := by
  have hpends (d) := Bus.pends_of_answered (d := d) c.host hn hans
  have hfollow {r : Except UsbError Dispatch × Bus σ × σ}
      (hr : c.bus.call c.host s op = (.dispatch r.1, r.2))
      (hacc : (c.followUp r).1.toOption = some id) :
      (c.followUp r).2.1.bus.Pends id (Time.after t c.bus.latency.toNat) (clampCount n) := by
    rw [hr] at hpends
    obtain ⟨d, hd, rfl, hbus⟩ :=
      bus_followUp_of_ok hacc fun d hd => (hpends d (congrArg Answer.dispatch hd)).1
    rw [hbus]
    exact (hpends d (congrArg Answer.dispatch hd)).2
  cases a with
  | bus op' =>
    obtain rfl := Option.some.inj hreq
    obtain ⟨⟨kind, d⟩, hd, rfl⟩ := Option.map_eq_some_iff.1 hacc
    exact (hpends d (Past.eq_of_acceptedBy hd).2).2
  | submitControl h setup buffer =>
    obtain rfl := Option.some.inj hreq
    exact hfollow rfl hacc
  | submitInterrupt h endpoint buffer =>
    obtain rfl := Option.some.inj hreq
    exact hfollow rfl hacc
  | submitIsochronous h request =>
    obtain rfl := Option.some.inj hreq
    exact nomatch hans
  | deliver | poll | shutDown => exact nomatch hreq

/-- **The life of an emulated transfer.** Let a controller that has started do anything at all, and
then accept a transfer that an emulated device answers at some time with some number of bytes. The
transfer is due when the latency has passed, or at the largest time there is. It is busy as long as
no pump reads a time at which it is due, whatever is done; and after the first one that does, it has
completed with that number of bytes. -/
theorem answered_until_due {host : Host σ} {clock : σ → UInt64} {settings : Settings}
    {memory : Memory} {s₀ s₁ : σ} {c₀ : Controller σ}
    (hstart : start host clock settings memory s₀ = (.ok c₀, s₁))
    (hrun : Reaches (fun _ _ _ => True) c₀ s₁ c s)
    {a : Action σ} {op : Operation σ} {t : UInt64} {n : Nat} {id : TransferId}
    (hreq : c.request s a = some op) (hans : c.bus.Answered s op t n)
    (hacc : (c.act s a).1 = some id) {c' : Controller σ} {s' : σ}
    (hwait : Reaches (fun c s a => ∀ now, c.reading s a = some now →
      now.toNat < min (t.toNat + settings.latency.toNat) 18446744073709551615)
      (c.act s a).2.1 (c.act s a).2.2 c' s') :
    c'.bus.transferResult id = .ok ⟨true, .completed, 0⟩ ∧
      ∀ a now, c'.reading s' a = some now →
        min (t.toNat + settings.latency.toNat) 18446744073709551615 ≤ now.toNat →
        ∃ count, (c'.act s' a).2.1.bus.transferResult id = .ok ⟨false, .completed, count⟩ ∧
          count.toNat = n := by
  have hready : c.bus.Ready settings.latency := by
    refine Reaches.kept (fun b host s op _ h => h.call host s op) hrun ?_ ?_
    · refine kept_start (fun b host s op (h : b.Ready settings.latency) => h.call host s op)
        hstart ⟨?_, rfl⟩
      exact TransferPool.named_ofCapacity
        (Nat.le_trans (poolSize_le_of_start hstart) (by decide))
    · exact fun c s _ now _ _ b h => h.call c.host s (.pump now)
  have hpends : c'.bus.Pends id (Time.after t settings.latency.toNat) (clampCount n) := by
    refine Reaches.kept (Bus.Pends.keptByCalls id _ _) hwait ?_ ?_
    · rw [← hready.latency]
      exact pends_act hready.named hreq hans hacc
    · intro c s a now hlt hr b hb
      refine hb.pump ?_
      rw [UInt64.lt_iff_toNat_lt, Time.toNat_after]
      exact hlt now hr
  refine ⟨hpends.transferResult, fun a now ha hdue => ⟨clampCount n, ?_, ?_⟩⟩
  · obtain ⟨b, hb, e⟩ := kept_until_pump (Bus.Pends.keptByCalls id _ _) hpends ha
    rw [e]
    refine hb.transferResult_pump ?_
    rw [UInt64.le_iff_toNat_le, Time.toNat_after]
    exact hdue
  · exact toNat_clampCount_of_lt hans.count_lt

/-- The device descriptor is asked for at time 7 and takes 100 microseconds. A poll at time 106 and
a clock set back end nothing, and the poll at time 107 does. -/
theorem answered_until_due_at_device_descriptor :
    ∃ (c : Controller UInt64) (id : TransferId),
      c.bus.transferResult id = .ok ⟨true, .completed, 0⟩ ∧
        ∃ count, (c.act 107 (.poll 0)).2.1.bus.transferResult id = .ok ⟨false, .completed, count⟩ ∧
          count.toNat = 18 := by
  have hstart : start Host.none id { poolSize := 2, passthrough := [], emulated := [default] }
      (.blank 32) (7 : UInt64) = (.ok ⟨Host.none, id,
        (attachEmulated Host.none (Bus.empty 2 100 (.blank 32)) 7 default).1, true⟩, 7) := rfl
  have h := answered_until_due hstart (.act (.bus (.openByIds 0 0)) .refl trivial)
    (a := .submitControl ⟨⟨0⟩, .ofIndex 1, 1⟩ ⟨0x80, 6, 0x0100, 0, 18⟩ ⟨0, 18⟩) rfl
    (.control rfl) (show _ = some ⟨1⟩ from rfl)
    (.act (.bus (.elapse 107)) (.act (.bus (.elapse 50)) (.act (.poll 0)
      (.act (.bus (.elapse 106)) .refl fun _ e => nomatch e)
      fun now e => by obtain rfl := Option.some.inj e; decide)
      fun _ e => nomatch e) fun _ e => nomatch e)
  exact ⟨_, _, h.1, h.2 (.poll 0) 107 rfl (by decide)⟩

end Controller

end VirtualUsb
