import VirtualUsb.Proofs.Controller.Run
import VirtualUsb.Proofs.Host.Log
import VirtualUsb.Proofs.Transfer.Finished
import VirtualUsb.Proofs.Transfer.Landing

/-!
# A host that is busy

A controller hands a transfer over again and again while the host is busy. `Host.Delays` says how
often a host puts a transfer off before it gives another answer; every host gives one in the end
(`Host.exists_delays`). What becomes of the bus depends on this answer alone and not on how often
the transfer was put off, and a transfer that the host refused leaves nothing behind but its slot,
which is idle again (`Controller.act_of_delays`).
-/

namespace VirtualUsb

/-! ## Answers that are put off -/

namespace Host

variable {σ : Type} {host : Host σ} {t : HostTransfer} {n : Nat} {r : Except HostError Unit} {s : σ}

/-- The world after a transfer was submitted a number of times. -/
def submitted (host : Host σ) (t : HostTransfer) (s : σ) (n : Nat) : σ :=
  (fun s => (host.submit t s).2)^[n] s

/-- Whether a host is busy the first `n` times that a transfer is submitted, and then gives another
answer. -/
structure Delays (host : Host σ) (t : HostTransfer) (n : Nat) (r : Except HostError Unit) (s : σ) :
    Prop where
  busy : ∀ i < n, (host.submit t (host.submitted t s i)).1 = .error .busy
  answer : (host.submit t (host.submitted t s n)).1 = r
  final : r ≠ .error .busy

theorem submitted_succ (host : Host σ) (t : HostTransfer) (s : σ) (n : Nat) :
    host.submitted t s (n + 1) = host.submitted t (host.submit t s).2 n := rfl

theorem Delays.succ (hbusy : (host.submit t s).1 = .error .busy)
    (h : host.Delays t n r (host.submit t s).2) : host.Delays t (n + 1) r s := by
  refine ⟨fun i hi => ?_, h.answer, h.final⟩
  cases i with
  | zero => exact hbusy
  | succ i => exact h.busy i (Nat.lt_of_succ_lt_succ hi)

theorem Delays.pred (h : host.Delays t (n + 1) r s) : host.Delays t n r (host.submit t s).2 :=
  ⟨fun i hi => h.busy (i + 1) (Nat.succ_lt_succ hi), h.answer, h.final⟩

/-- Every host gives another answer in the end, as its patience is limited. -/
theorem exists_delays (host : Host σ) (t : HostTransfer) (s : σ) : ∃ n r, host.Delays t n r s := by
  induction hp : host.patience s using Nat.strongRecOn generalizing s with
  | ind p ih =>
    by_cases hbusy : (host.submit t s).1 = .error .busy
    · obtain ⟨n, r, h⟩ := ih _ (hp ▸ host.patience_lt t s hbusy) (host.submit t s).2 rfl
      exact ⟨n + 1, r, h.succ hbusy⟩
    · exact ⟨0, _, nofun, rfl, hbusy⟩

/-- A transfer is submitted once more than it is put off, and the last answer counts. -/
theorem Delays.handOver_eq (h : host.Delays t n r s) :
    host.handOver t s = (r, host.submitted t s (n + 1)) := by
  induction n generalizing s with
  | zero =>
    have hfirst : (host.submit t s).1 = r := h.answer
    unfold handOver
    split
    · rename_i hbusy
      exact absurd (hfirst.symm.trans hbusy) h.final
    · exact Prod.ext hfirst rfl
  | succ n ih =>
    have hbusy : (host.submit t s).1 = .error .busy := h.busy 0 (Nat.succ_pos n)
    rw [handOver]
    split
    · exact ih h.pred
    · rename_i hne
      exact absurd hbusy hne

/-- The log of a host holds one entry for each time that a transfer was submitted. -/
theorem submitted_logged (host : Host σ) (t : HostTransfer) (s : σ × HostLog) (n : Nat) :
    host.logged.submitted t s n =
      (host.submitted t s.1 n, List.replicate n (.submit t) ++ s.2) := by
  induction n generalizing s with
  | zero => rfl
  | succ n ih =>
    rw [submitted_succ, ih]
    refine Prod.ext rfl ?_
    show List.replicate n (HostCall.submit t) ++ .submit t :: s.2 = _
    rw [List.replicate_succ', List.append_assoc, List.singleton_append]

theorem Delays.logged {s : σ × HostLog} (h : host.Delays t n r s.1) :
    host.logged.Delays t n r s := by
  have hsame (i : Nat) : (host.logged.submit t (host.logged.submitted t s i)).1 =
      (host.submit t (host.submitted t s.1 i)).1 := by
    rw [submitted_logged]
    rfl
  exact ⟨fun i hi => (hsame i).trans (h.busy i hi), (hsame n).trans h.answer, h.final⟩

end Host

/-! ## Transfers of open devices -/

/-- A service that prepared a transfer for the host has done nothing else but to note where an
answer is to go. -/
theorem Served.eq_of_submission {kind : TransferKind} {v v' : Service} {t : HostTransfer}
    (h : Served kind v v') (hv : v.submission = none) (ht : v'.submission = some t) :
    ∃ buffer, v' =
      { v with transfer := v.transfer.withDestination kind buffer, submission := some t } := by
  cases h with
  | idle | scheduled | refused => exact nomatch hv.symm.trans ht
  | prepared buffer u =>
    obtain rfl := Option.some.inj ht
    exact ⟨buffer, rfl⟩

theorem Operation.serve_passthrough {σ : Type} {op : Operation σ} {kind : TransferKind}
    (hop : op.submits = some kind) (p : Passthrough) (v : Service) (s : σ) :
    ∃ w, op.serve (.passthrough p) v s = (.passthrough p, w, s) ∧ Served kind v w := by
  cases op with
  | submitControl _ setup buffer =>
    obtain rfl := Option.some.inj hop
    exact ⟨_, rfl, p.served_controlTransfer v setup buffer⟩
  | submitInterrupt _ endpoint buffer =>
    obtain rfl := Option.some.inj hop
    exact ⟨_, rfl, p.served_interruptTransfer v endpoint buffer⟩
  | submitIsochronous =>
    obtain rfl := Option.some.inj hop
    exact ⟨_, rfl, p.served_isochronousTransfer v⟩
  | _ => exact nomatch hop

namespace Bus

variable {σ : Type} {host : Host σ} {b : Bus σ} {s : σ} {id : TransferId}

/-- Whether a transfer stands in a slot that waits for the host and has been told nothing yet. -/
def Waiting (b : Bus σ) (id : TransferId) : Prop :=
  ∃ slot, b.pool.get? id = some slot ∧ awaitsHost slot = true ∧
    slot.result = ⟨true, .completed, 0⟩

/-- What an accepted transfer to a device that is open on the host leaves behind: a transfer that is
prepared under the device's handle, and a slot that waits for the host. -/
theorem waiting_of_ok (hn : b.pool.Named) {op : Operation σ} {h : Handle} {a : Dispatch}
    {key : DeviceKey} {p : Passthrough} {handle : HostHandle} (hop : op.target? = some h)
    (hd : b.openedDevice h = some (key, .passthrough p)) (hp : p.handle = some handle)
    (hok : (b.call host s op).1 = .dispatch (.ok a)) :
    (∃ t, a.submission = some t ∧ t.id = a.id ∧ t.handle = handle) ∧
      (b.call host s op).2.1.Waiting a.id ∧ (b.call host s op).2.1.memory = b.memory ∧
      (b.call host s op).2.2 = s := by
  obtain ⟨kind, hkind⟩ := Option.isSome_iff_exists.1 (op.isSome_submits hop)
  obtain ⟨t, ht, hhandle⟩ := submission_of_handle host s hop hd hp hok
  obtain ⟨old, now, cursor, served, hold, hserved, hsub, hcall⟩ :=
    call_of_openedDevice host s hn hd hop hok
  obtain ⟨w, hw, hprepared⟩ := op.serve_passthrough hkind p (b.serviceFor op h a.id now) s
  rw [hw] at hserved
  subst hserved
  have htw : w.submission = some t := hsub.symm.trans ht
  have hid : t.id = a.id := (hprepared.of_submission rfl htw).1
  obtain ⟨buffer, rfl⟩ := hprepared.eq_of_submission rfl htw
  have hslot (u : Transfer) : (b.pool.set a.id u).get? a.id = some u :=
    (TransferPool.get?_set_of_get? hold u a.id).trans (if_pos rfl)
  rw [hcall]
  refine ⟨⟨t, ht, hid, hhandle⟩, ⟨_, hslot _, ?_, ?_⟩, rfl, rfl⟩
  · cases kind <;> rfl
  · cases kind <;> rfl

/-! ## Refused transfers -/

/-- Whether nothing of a transfer that the host refused with an error is left but its slot. -/
structure Refused (b : Bus σ) (id : TransferId) (e : HostError) : Prop where
  /-- The guest reads that the transfer has failed, and why. -/
  result : b.transferResult id = .ok ⟨false, .ofHost e, 0⟩
  /-- No answer would be put anywhere. -/
  cleared : ∃ slot, b.pool.get? id = some slot ∧ slot.controlDestination = none ∧
    slot.endpointDestination = none
  /-- There is a slot to give away. -/
  free : ∃ slot pool, b.pool.allocate = some (slot, pool)
  /-- It is this one if no other slot is idle. -/
  next : (∀ j t, b.pool.get? j = some t → j ≠ id → t.busy = true) →
    ∀ slot pool, b.pool.allocate = some (slot, pool) → slot.id = id
  /-- Until the slot is given away, a report of the host for it is ignored, memory included. -/
  deaf : ∀ (host : Host σ) (s : σ) (past : Past σ) (c : Scene σ),
    Scene.Reached host (fun c op => ¬ c.GivesAway host op id) ⟨b, s, past⟩ c →
    ∀ x : Completion, x.id = id → c.bus.complete host x c.world = (c.bus, c.world)

/-- The bus after the host has given its answer to a transfer. -/
def answeredBy (b : Bus σ) (id : TransferId) : Except HostError Unit → Bus σ
  | .ok () => b
  | .error e => b.fail id e

theorem Waiting.answeredBy_eq (h : b.Waiting id) (r : Except HostError Unit) :
    ∃ pool, b.answeredBy id r = { b with pool } := by
  obtain ⟨t, ht, hw, -⟩ := h
  cases r with
  | ok => exact ⟨b.pool, rfl⟩
  | error e => exact ⟨_, fail_of_awaitsHost ht hw⟩

theorem Waiting.refused (h : b.Waiting id) (hn : b.pool.Named) (e : HostError) :
    (b.fail id e).Refused id e := by
  obtain ⟨t, ht, hw, -⟩ := h
  have hfail := fail_of_awaitsHost (e := e) ht hw
  have hid : t.id = id := hn.id_eq ht
  have hget : (b.fail id e).pool.get? id = some (t.finish (.ofHost e) 0) := by
    rw [hfail]
    exact (TransferPool.get?_set_of_get? ht _ id).trans (if_pos rfl)
  have hnamed : (b.fail id e).pool.Named := by
    rw [hfail]
    exact hn.set hid
  refine ⟨?_, ⟨_, hget, rfl, rfl⟩, TransferPool.exists_allocate_of_idle hget rfl, ?_, ?_⟩
  · unfold transferResult
    rw [hget]
    rfl
  · intro hothers slot pool hslot
    obtain ⟨old, hold, hidle, -⟩ := TransferPool.allocate_eq_some hnamed hslot
    by_contra hne
    exact nomatch hidle.symm.trans (hothers slot.id old hold hne)
  · rintro host s past c hc x rfl
    have hkept := hc.get?_of_idle hnamed hget rfl rfl
    refine complete_of_not_awaitsHost host c.world fun u hu => ?_
    obtain rfl := Option.some.inj (hkept.symm.trans hu)
    rfl

end Bus

/-! ## The controller -/

namespace Controller

/-- Whether an action submits a transfer that the controller hands over by itself. -/
def Action.HandsOver {σ : Type} : Action σ → Prop
  | .submitControl .. | .submitInterrupt .. | .submitIsochronous .. => True
  | _ => False

section

variable {σ : Type} {k : Controller σ} {s s' : σ} {a : Action σ} {op : Operation σ} {d : Dispatch}
  {b : Bus σ}

theorem Action.HandsOver.submits (ha : a.HandsOver) (hop : k.request s a = some op) :
    op.submits.isSome = true := by
  cases a with
  | submitControl | submitInterrupt | submitIsochronous =>
    obtain rfl := Option.some.inj hop
    rfl
  | _ => exact ha.elim

/-- What an action does whose transfer the bus accepts. -/
theorem act_of_ok (ha : a.HandsOver) (hop : k.request s a = some op)
    (hcall : k.bus.call k.host s op = (.dispatch (.ok d), b, s')) :
    k.act s a = (some d.id, { k with bus := b }.handOver d s') := by
  have hfollow {r : Except UsbError Dispatch × Bus σ × σ}
      (hr : (Answer.dispatch r.1, r.2) = (.dispatch (.ok d), b, s')) :
      ((k.followUp r).1.toOption, (k.followUp r).2) =
        (some d.id, { k with bus := b }.handOver d s') := by
    obtain ⟨r, b', s''⟩ := r
    obtain ⟨hr, hrest⟩ := Prod.mk.inj hr
    obtain rfl := Answer.dispatch.inj hr
    obtain ⟨rfl, rfl⟩ := Prod.mk.inj hrest
    rfl
  cases a with
  | submitControl | submitInterrupt | submitIsochronous =>
    obtain rfl := Option.some.inj hop
    exact hfollow hcall
  | _ => exact ha.elim

/-- What comes of handing a transfer over to a host that gives an answer in the end. -/
theorem handOver_of_delays {t : HostTransfer} {n : Nat} {r : Except HostError Unit}
    (hd : d.submission = some t) (h : k.host.Delays t n r s) :
    k.handOver d s = ({ k with bus := k.bus.answeredBy d.id r }, k.host.submitted t s (n + 1)) := by
  unfold handOver
  rw [hd]
  dsimp only
  rw [h.handOver_eq]
  cases r <;> rfl

end

variable {σ : Type} {host : Host σ}

/-- What a controller and the log of its host have come to when the host, after it had been busy `n`
times, answered a transfer for good. -/
structure Settles (k k' : Controller (σ × HostLog)) (log log' : HostLog) (t : HostTransfer)
    (n : Nat) (r : Except HostError Unit) : Prop where
  /-- The host was given the same transfer each time, and was asked nothing else. -/
  log : log' = List.replicate (n + 1) (.submit t) ++ log
  memory : k'.bus.memory = k.bus.memory
  attached : k'.bus.attached = k.bus.attached
  opened : k'.bus.opened = k.bus.opened
  taken : r = .ok () → k'.bus.Waiting t.id
  refused : ∀ e, r = .error e → k'.bus.Refused t.id e

/-- **A busy host leaves no trace.** Whatever calls were made of a new bus, take a transfer of any
kind that its controller's bus accepts for a device that is open on the host. It is accepted for
the guest, too, under the name of its slot, and the host gives it an answer in the end. However
often the host was busy before, it was given this very transfer each time, and the bus and the
guest's memory are what they would be if it had given the answer at once. Devices and memory are
as before. If the host took the transfer, the slot waits for its report, and if it refused it with
an error, the guest reads that error and nothing but an idle slot is left. -/
theorem act_of_delays {allowed : Scene (σ × HostLog) → Operation (σ × HostLog) → Prop} {size : Nat}
    (hsize : size ≤ UInt32.size) {latency : UInt64} {memory : Memory} {world : σ × HostLog}
    {c : Scene (σ × HostLog)}
    (h : Scene.Reached host.logged allowed ⟨Bus.empty size latency memory, world, []⟩ c)
    {k : Controller (σ × HostLog)} (hbus : k.bus = c.bus) (hhost : k.host = host.logged)
    {a : Action (σ × HostLog)} (ha : a.HandsOver) {op : Operation (σ × HostLog)}
    (hop : k.request c.world a = some op) {handle : Handle} {key : DeviceKey} {p : Passthrough}
    {hostHandle : HostHandle} (htarget : op.target? = some handle)
    (hdev : k.bus.openedDevice handle = some (key, .passthrough p))
    (hp : p.handle = some hostHandle) {d : Dispatch}
    (hok : (k.bus.call k.host c.world op).1 = .dispatch (.ok d)) :
    ∃ t, d.submission = some t ∧ t.id = d.id ∧ t.handle = hostHandle ∧
      (k.act c.world a).1 = some d.id ∧
      (∃ n r, host.Delays t n r c.world.1) ∧
      ∀ n r, host.Delays t n r c.world.1 →
        k.Settles (k.act c.world a).2.1 c.world.2 (k.act c.world a).2.2.2 t n r ∧
        ∀ other : Host (σ × HostLog), other.Delays t 0 r c.world →
          ({ k with host := other }.act c.world a).2.1.bus = (k.act c.world a).2.1.bus := by
  have hnamed : k.bus.pool.Named := hbus ▸ h.named (TransferPool.named_ofCapacity hsize)
  obtain ⟨⟨t, ht, hid, hhandle⟩, hwaiting, hmemory, hworld⟩ :=
    Bus.waiting_of_ok hnamed htarget hdev hp hok
  have hsubmits := ha.submits hop
  have hlineup := Bus.lineup_of_submits (b := k.bus) k.host c.world hsubmits
  have hb := (Bus.Ready.call k.host c.world ⟨hnamed, rfl⟩ op).named
  -- the bus accepts the transfer before the host is asked anything
  generalize hcall : k.bus.call k.host c.world op = r at hok hwaiting hmemory hworld hlineup hb
  obtain ⟨answer, b, s⟩ := r
  obtain rfl : answer = .dispatch (.ok d) := hok
  obtain rfl : s = c.world := hworld
  have hother (other : Host (σ × HostLog)) :
      k.bus.call other c.world op = (.dispatch (.ok d), b, c.world) := by
    rw [← hcall]
    cases op with
    | submitControl | submitInterrupt | submitIsochronous => rfl
    | _ => exact nomatch hsubmits
  have hact := act_of_ok ha hop hcall
  refine ⟨t, ht, hid, hhandle, by rw [hact], host.exists_delays t c.world.1, fun n r hr => ?_⟩
  have hlogged : k.host.Delays t n r c.world := hhost ▸ hr.logged
  rw [hact, handOver_of_delays (k := { k with bus := b }) ht hlogged]
  obtain ⟨pool, hpool⟩ := hwaiting.answeredBy_eq r
  refine ⟨⟨?_, ?_, ?_, ?_, ?_, ?_⟩, fun other hother₀ => ?_⟩
  · rw [hhost, Host.submitted_logged]
  · exact (congrArg Bus.memory hpool).trans hmemory
  · exact (congrArg Bus.attached hpool).trans (congrArg Lineup.attached hlineup)
  · exact (congrArg Bus.opened hpool).trans (congrArg Lineup.opened hlineup)
  · rintro rfl
    exact hid.symm ▸ hwaiting
  · rintro e rfl
    exact hid.symm ▸ hwaiting.refused hb e
  · have hact' := act_of_ok (k := { k with host := other }) ha hop (hother other)
    rw [hact', handOver_of_delays (k := { k with host := other, bus := b }) ht hother₀]

end Controller

/-! ### A host that refuses in the end -/

/-- A host that is busy as often as its world says, and then finds that the device has stalled. -/
def Host.drowsy : Host Nat :=
  { Host.none with
    openDevice _ s := (.ok 1, s)
    claim _ _ s := (.ok (), s)
    submit _ s := (.error (if s = 0 then .pipe else .busy), s - 1)
    patience := id
    patience_lt _ s h := by
      by_cases hs : s = 0
      · subst hs
        exact nomatch h
      · exact Nat.sub_one_lt hs }

namespace Controller

open Host (drowsy)

/-- A new bus with a device that is open on a host that will be busy three times. -/
def drowsing : Scene (Nat × HostLog) :=
  let first : Scene (Nat × HostLog) := ⟨Bus.empty 2 0 (.blank 16), (3, []), []⟩
  (first.after drowsy.logged (.attach (.passthrough (.idle default)))).after drowsy.logged
    (.openRecord default)

def patient : Controller (Nat × HostLog) := ⟨drowsy.logged, fun _ => 0, drowsing.bus, true⟩

/-- The host is given the transfer four times, and the guest reads that the device has stalled. -/
theorem act_of_drowsy :
    let r := patient.act drowsing.world (.submitInterrupt default 129 ⟨0, 8⟩)
    ∃ t, drowsy.Delays t 3 (.error .pipe) 3 ∧ r.1 = some ⟨1⟩ ∧
      r.2.2.2 = List.replicate 4 (.submit t) ++ drowsing.world.2 ∧
      r.2.1.bus.transferResult ⟨1⟩ = .ok ⟨false, .stall, 0⟩ ∧
      r.2.1.bus.opened = drowsing.bus.opened := by
  have hreached : Scene.Reached drowsy.logged (fun _ _ => True)
      ⟨Bus.empty 2 0 (.blank 16), (3, []), []⟩ drowsing :=
    (Scene.Reached.first.after _ trivial).after _ trivial
  have hdev : patient.bus.openedDevice default = some (_, .passthrough _) := rfl
  obtain ⟨t, -, hid, -, haccepted, -, hsettles⟩ := act_of_delays (by decide) hreached (k := patient)
    rfl rfl (a := .submitInterrupt default 129 ⟨0, 8⟩) trivial rfl rfl hdev rfl rfl
  have hdelays : drowsy.Delays t 3 (.error .pipe) 3 :=
    .succ rfl (.succ rfl (.succ rfl ⟨nofun, rfl, nofun⟩))
  obtain ⟨hsettled, -⟩ := hsettles 3 (.error .pipe) hdelays
  have hresult := (hsettled.refused .pipe rfl).result
  rw [hid] at hresult
  exact ⟨t, hdelays, haccepted, hsettled.log, hresult, hsettled.opened⟩

end Controller

end VirtualUsb
