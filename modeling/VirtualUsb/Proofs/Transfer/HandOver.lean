import VirtualUsb.Proofs.Bus.Handles

/-!
# Handing transfers over

A transfer is prepared for the host in the course of a call, under the handle that its device holds,
and handed over later, with any calls in between (`Scene.Interleaves`). The device holds that handle
for as long as no call clears its location, and holds none from then on until it is opened again;
but nothing keeps the transfer from being handed over then (`Scene.handOver_of_interleaved`).
-/

namespace VirtualUsb

namespace Scene

/-! ## Interleavings -/

variable {σ : Type} {host : Host σ}

/-- What the world is once a transfer has been handed to the host. -/
def handedOver (host : Host σ) (t : HostTransfer) (c : Scene (σ × HostLog)) : σ × HostLog :=
  (host.logged.submit t c.world).2

/-- Whether a step may be the next, when callers take turns: any call, as long as the devices
attached hold no host handle and know nothing of the log, or the hand-over of a transfer that some
call was accepted as, or something that the host does by itself. -/
def Interleaves (host : Host σ) (c : Scene (σ × HostLog)) : Operation (σ × HostLog) → Prop
  | .attach d => d.hostHandle? = none ∧ d.IsApart
  | .reattach h => h.key ∈ c.bus.held
  | .elapse world => world.2 = c.world.2 ∨ ∃ kind x t, (kind, x) ∈ c.past.accepted ∧
    x.submission = some t ∧ world = c.handedOver host t
  | _ => True

theorem Interleaves.attachesClosed {c : Scene (σ × HostLog)} {op : Operation (σ × HostLog)}
    (h : Interleaves host c op) : c.bus.AttachesClosed op := by
  cases op with
  | attach d => exact h.1
  | reattach handle => exact h
  | _ => trivial

theorem Reached.accepted {allowed : Scene σ → Operation σ → Prop} {first c : Scene σ}
    (h : Reached host allowed first c) {x : TransferKind × Dispatch}
    (hx : x ∈ first.past.accepted) : x ∈ c.past.accepted := by
  refine h.invariant (P := fun c => x ∈ c.past.accepted) hx fun c op hc _ => ?_
  obtain ⟨y, hy, e⟩ := List.mem_filterMap.1 hc
  exact List.mem_filterMap.2 ⟨y, List.mem_cons_of_mem _ hy, e⟩

/-- The handles that are open at the host are those that devices of the bus hold. -/
theorem Reached.accountsFor {first c : Scene (σ × HostLog)}
    (h : Reached host.logged (Interleaves host) first c)
    (h0 : first.bus.roster.AccountsFor first.world.2) : c.bus.roster.AccountsFor c.world.2 := by
  refine h.moves (P := fun x => x.1.AccountsFor x.2.2) h0 ?_ ?_
  · intro c op hop x y hm hx
    refine hx.move hm fun d e => ?_
    subst e
    exact hop
  · intro c world hop hc
    rcases hop with e | ⟨-, -, t, -, -, rfl⟩
    · exact e.symm ▸ hc
    · refine ⟨hc.apart, (List.Perm.of_eq ?_).trans hc.handles⟩
      exact HostLog.openHandles_of_steady (x := .submit t) ⟨rfl, rfl⟩

/-- How a transfer that was prepared for a device, where that stood, may be handed over later. -/
structure Prepared (host : Host σ) (made : Scene (σ × HostLog)) (o : Attachment) (t : HostTransfer)
    (c : Scene (σ × HostLog)) : Prop where
  /-- It can be handed over. -/
  possible : Interleaves host c (.elapse (c.handedOver host t))
  /-- The handle that it names is open at the host just if some device holds it. -/
  opened : t.handle ∈ HostLog.openHandles c.world.2 ↔ ∃ key, c.bus.roster.Holds key t.handle
  /-- The device holds that handle if no call has cleared its location. -/
  held : Reached host.logged
    (fun c op => Interleaves host c op ∧ ¬ c.bus.Clears o.location op) made c →
    c.bus.roster.Holds o.key t.handle
  /-- The device holds none if a call has, and no call has opened the device since. -/
  released : ∀ c₁ op, Reached host.logged (Interleaves host) made c₁ → Interleaves host c₁ op →
    c₁.bus.Clears o.location op → Reached host.logged (fun c op => Interleaves host c op ∧
      ¬ (c.bus.call host.logged c.world op).1.Opens o.key) (c₁.after host.logged op) c →
    ∀ h, ¬ c.bus.roster.Holds o.key h

/-- **Transfers are handed over late.** Whatever callers do in turns, a transfer to an open device
of the host is prepared under the handle that the device holds. That handle is open at the host, and
the device's own, for as long as no call clears the location of the device. Once a call has done so,
be it that it closes or disconnects the device, attaches another in its place or reports it gone,
the device holds no handle until it is opened again; but the transfer can still be handed over, and
then it names a handle that is open just if another device has been given it. -/
theorem handOver_of_interleaved {n : Nat} {latency : UInt64} {memory : Memory} {world : σ}
    {c : Scene (σ × HostLog)} {op : Operation (σ × HostLog)} {handle : Handle} {key : DeviceKey}
    {p : Passthrough} {x : Dispatch}
    (h : Reached host.logged (Interleaves host) ⟨Bus.empty n latency memory, (world, []), []⟩ c)
    (hop : op.target? = some handle)
    (hdev : c.bus.openedDevice handle = some (key, .passthrough p))
    (hok : (c.bus.call host.logged c.world op).1 = .dispatch (.ok x)) :
    ∃ t, x.submission = some t ∧ c.bus.roster.Holds key t.handle ∧
      ∀ c', Reached host.logged (Interleaves host) (c.after host.logged op) c' →
        Prepared host (c.after host.logged op) ⟨handle.location, key⟩ t c' := by
  have hclosed (c : Scene (σ × HostLog)) (op) (h : Interleaves host c op) :
      c.bus.AttachesClosed op := h.attachesClosed
  have hsound := h.sound (Bus.lineup_empty n latency memory) hclosed
  have hopened := Bus.mem_opened_of_openedDevice hdev
  obtain ⟨hostHandle, hp⟩ := (Bus.lists_of_sound hsound).handle_of_openedDevice hdev
  obtain ⟨t, ht, rfl⟩ := Bus.submission_of_handle host.logged c.world hop hdev hp hok
  have hholds : c.bus.roster.Holds key t.handle := ⟨_, Bus.roster_of_openedDevice hdev, hp⟩
  -- the submission itself leaves the lists and the handles alone
  obtain ⟨kind, hsub⟩ := Option.isSome_iff_exists.1 (op.isSome_submits hop)
  have hmade : Interleaves host c op := by
    cases op with
    | attach | reattach | elapse => exact nomatch hsub
    | _ => trivial
  have hlineup : (c.after host.logged op).bus.lineup = c.bus.lineup :=
    Bus.lineup_of_submits host.logged c.world (Option.isSome_iff_exists.2 ⟨kind, hsub⟩)
  have hsound' : (c.after host.logged op).bus.lineup.Sound := hlineup ▸ hsound
  have hopened' : ⟨handle.location, key⟩ ∈ (c.after host.logged op).bus.opened :=
    Bus.opened_of_lineup_eq hlineup ▸ hopened
  have hholds' : (c.after host.logged op).bus.roster.Holds key t.handle :=
    (Bus.holds_congr (congrArg (Lineup.bearing? · key) hlineup)).2 hholds
  have haccepted : (kind, x) ∈ (c.after host.logged op).past.accepted :=
    List.mem_filterMap.2 ⟨_, List.mem_cons_self, hok ▸ Past.acceptedBy_of_ok hsub⟩
  refine ⟨t, ht, hholds, fun c' hc' => ⟨?_, ?_, fun hrun => ?_, ?_⟩⟩
  · exact .inr ⟨kind, x, t, hc'.accepted haccepted, ht, rfl⟩
  · have h0 : (Bus.empty n latency memory : Bus (σ × HostLog)).roster.AccountsFor [] :=
      ⟨nofun, .nil⟩
    exact (((h.after op hmade).trans hc').accountsFor h0).mem_openHandles
  · exact (hrun.holds_of_uncleared hclosed hsound' hopened' hholds').2
  · intro c₁ op₁ hc₁ hop₁ hclears hsince h
    refine Bus.not_holds_of_closed (((hc₁.after op₁ hop₁).trans
      (hsince.mono fun _ _ => And.left)).sound hsound' hclosed) ?_
    exact hc₁.not_hasOpen_of_cleared hop₁ hclosed hsound' (hsound'.known _ hopened') hclears hsince

/-! ### A transfer that comes late -/

def recorded : Scene (Unit × HostLog) := ⟨Bus.empty 2 0 (.blank 16), ((), []), []⟩

/-- An interrupt transfer as it is prepared under the host's only handle. -/
def eightBytes (id : TransferId) : HostTransfer where
  id
  handle := 1
  kind := .interrupt
  endpoint := 129
  buffer := List.replicate 8 0

/-- A bus with a device of the host that is open, to which a transfer was handed over. -/
def supplied : Scene (Unit × HostLog) :=
  let made := ((recorded.after Host.obliging.logged (.attach (.passthrough (.idle default)))).after
    Host.obliging.logged (.openRecord default)).after Host.obliging.logged
      (.submitInterrupt default 129 ⟨0, 8⟩ 0)
  made.after Host.obliging.logged (.elapse (made.handedOver .obliging (eightBytes ⟨1⟩)))

/-- The same bus after one more transfer was prepared for the device. -/
def prepared : Scene (Unit × HostLog) :=
  supplied.after Host.obliging.logged (.submitInterrupt default 129 ⟨0, 8⟩ 0)

/-- The same bus after another caller has made a call first. -/
def behind (op : Operation (Unit × HostLog)) : Scene (Unit × HostLog) :=
  prepared.after Host.obliging.logged op

/-- Whether the transfer can still be handed over after a call, and then names a handle that is
closed. -/
structure LateAfter (op : Operation (Unit × HostLog)) : Prop where
  reached : Reached Host.obliging.logged (Interleaves .obliging) recorded (behind op)
  possible : Interleaves .obliging (behind op)
    (.elapse ((behind op).handedOver .obliging (eightBytes ⟨0⟩)))
  submitted : ((behind op).handedOver .obliging (eightBytes ⟨0⟩)).2 =
    .submit (eightBytes ⟨0⟩) :: (behind op).world.2
  closed : (eightBytes ⟨0⟩).handle ∉ HostLog.openHandles (behind op).world.2

theorem reached_supplied :
    Reached Host.obliging.logged (Interleaves .obliging) recorded supplied :=
  (((Reached.first.after _ ⟨rfl, trivial⟩).after _ trivial).after _ trivial).after _
    (.inr ⟨.interrupt, ⟨⟨1⟩, some (eightBytes ⟨1⟩)⟩, _,
      List.mem_filterMap.2 ⟨_, List.mem_cons_self, rfl⟩, rfl, rfl⟩)

/-- As long as nothing overtakes the transfer, the device holds the handle that it names. Once the
device is closed, it holds none. -/
theorem handOver_of_prepared : prepared.bus.roster.Holds ⟨0⟩ 1 ∧
    1 ∈ HostLog.openHandles prepared.world.2 ∧ ∀ h, ¬ (prepared.after Host.obliging.logged
      (.disconnect default false)).bus.roster.Holds ⟨0⟩ h := by
  have htarget : (Operation.submitInterrupt default 129 ⟨0, 8⟩ 0 :
    Operation (Unit × HostLog)).target? = some default := rfl
  obtain ⟨t, ht, -, hlater⟩ := handOver_of_interleaved reached_supplied htarget rfl rfl
  obtain rfl := Option.some.inj ht
  have hnow := hlater _ .first
  have hclosed := hlater _ (Reached.first.after (.disconnect default false) trivial)
  exact ⟨hnow.held .first, hnow.opened.2 ⟨_, hnow.held .first⟩,
    hclosed.released _ (.disconnect default false) .first trivial rfl .first⟩

theorem mem_accepted_prepared :
    (.interrupt, ⟨⟨0⟩, some (eightBytes ⟨0⟩)⟩) ∈ prepared.past.accepted :=
  List.mem_filterMap.2 ⟨_, List.mem_cons_self, rfl⟩

theorem lateAfter_of_interleaves {op : Operation (Unit × HostLog)}
    (hop : Interleaves .obliging prepared op)
    (hclosed : (eightBytes ⟨0⟩).handle ∉ HostLog.openHandles (behind op).world.2) :
    LateAfter op := by
  have hrun : Reached Host.obliging.logged (Interleaves .obliging) prepared (behind op) :=
    Reached.first.after op hop
  have hreached := (reached_supplied.after (.submitInterrupt default 129 ⟨0, 8⟩ 0) trivial).trans hrun
  have haccepted := hrun.accepted mem_accepted_prepared
  exact ⟨hreached, .inr ⟨_, _, _, haccepted, rfl, rfl⟩, rfl, hclosed⟩

/-- The transfer was prepared under the handle that the device held. If the device is closed first,
taken off the bus, put off by another in its place, or reported gone, the transfer is handed over
all the same, under a handle that is closed. -/
theorem handOver_comes_late :
    prepared.bus.roster.Holds ⟨0⟩ 1 ∧
      (.interrupt, ⟨⟨0⟩, some (eightBytes ⟨0⟩)⟩) ∈ prepared.past.accepted ∧
      LateAfter (.disconnect default false) ∧ LateAfter (.disconnect default true) ∧
      LateAfter (.attach (.passthrough (.idle { id := 21, descriptor := {} }))) ∧
      LateAfter (.complete gone) :=
  ⟨⟨_, rfl, rfl⟩, mem_accepted_prepared,
    lateAfter_of_interleaves trivial List.not_mem_nil,
    lateAfter_of_interleaves trivial List.not_mem_nil,
    lateAfter_of_interleaves ⟨rfl, trivial⟩ List.not_mem_nil,
    lateAfter_of_interleaves trivial List.not_mem_nil⟩

end Scene

end VirtualUsb
