import VirtualUsb.Proofs.Controller.Start

/-!
# Locations in the life of a controller

All that a controller does to its bus is a row of calls: when it starts (`Controller.reached_start`)
and in each action (`Controller.reached_act`). So what runs of a bus keep, its controller keeps.
Locations are issued in turn and come round again, so a device is sure of a free location only as
long as no more than 256 were issued (`Controller.issue_of_reached`).
-/

namespace VirtualUsb

open Scene (Reached TakesOffer)

/-- Whether a run of calls leads from a scene to a bus in its world. -/
def Scene.LeadsTo {σ : Type} (host : Host σ) (c : Scene σ) (b : Bus σ) (s : σ) (c' : Scene σ) :
    Prop := Reached host TakesOffer c c' ∧ c'.bus = b ∧ c'.world = s

namespace Controller

variable {σ : Type} {host : Host σ} {c : Scene σ}

/-! ## Starting -/

theorem reached_attachSelected (settings : Settings) (c : Scene σ) (x : Selected) :
    let r := attachSelected host settings (c.bus, c.world) x
    ∃ c', c.LeadsTo host r.1 r.2 c' ∧ c'.past.issued.length = c.past.issued.length + 1 := by
  let c₁ := c.after host .newLocation
  let c₂ := c₁.after host (.elapse (x.reference host c.world))
  let d : Device σ := x.device settings c.bus.newLocation.1
  have hoffer : d.state.location ∈ c₂.past.offers := by
    rw [x.location_device]
    show _ ∈ (c.past.offers ++ [c.bus.newLocation.1]) ++ []
    simp
  have hrun : Reached host TakesOffer c (c₂.after host (.attach d)) :=
    ((Reached.first.after .newLocation trivial).after (.elapse _) trivial).after (.attach d) hoffer
  have hissued : (c₂.after host (.attach d)).past.issued =
      ((c.past.issued ++ [c.bus.newLocation.1]) ++ []) ++ [] :=
    (Past.issued_cons _).trans (congrArg (· ++ _) ((Past.issued_cons _).trans
      (congrArg (· ++ _) (Past.issued_cons _))))
  dsimp only
  rw [attachSelected_eq]
  refine ⟨_, ⟨hrun, rfl, rfl⟩, ?_⟩
  rw [hissued]
  simp

theorem reached_foldl (host : Host σ) (settings : Settings) (c : Scene σ) (xs : List Selected) :
    let r := xs.foldl (attachSelected host settings) (c.bus, c.world)
    ∃ c', c.LeadsTo host r.1 r.2 c' ∧
      c'.past.issued.length = c.past.issued.length + xs.length := by
  induction xs generalizing c with
  | nil => exact ⟨c, ⟨.first, rfl, rfl⟩, rfl⟩
  | cons x xs ih =>
    obtain ⟨c₁, ⟨hrun₁, hbus₁, hworld₁⟩, hlen₁⟩ := reached_attachSelected settings c x
    obtain ⟨c₂, ⟨hrun₂, hbus₂, hworld₂⟩, hlen₂⟩ := ih c₁
    rw [hbus₁, hworld₁] at hbus₂ hworld₂
    refine ⟨c₂, ⟨hrun₁.trans hrun₂, hbus₂, hworld₂⟩, ?_⟩
    rw [hlen₂, hlen₁, List.length_cons]
    omega

/-- A controller starts by a run of calls that issues one location for each selected device. -/
theorem reached_start {clock : σ → UInt64} {settings : Settings} {memory : Memory} {s s' : σ}
    {k : Controller σ} (h : start host clock settings memory s = (.ok k, s')) :
    ∃ c, Scene.LeadsTo host ⟨Bus.empty settings.poolSize settings.latency memory, s, []⟩ k.bus s'
        c ∧
      c.past.issued.length =
        (settings.selected ((host.deviceList s).1.toOption.getD [])).length := by
  cases hfault : settings.fault with
  | some e =>
    have hstart : start host clock settings memory s = (.error e, s) := by
      unfold start
      rw [hfault]
    exact nomatch (congrArg Prod.fst (hstart.symm.trans h))
  | none =>
    rw [start_eq_foldl host hfault] at h
    obtain ⟨hk, rfl⟩ := Prod.mk.inj h
    obtain rfl := Except.ok.inj hk
    rw [← hostDevices_fst]
    let first : Scene σ := ⟨Bus.empty settings.poolSize settings.latency memory, s, []⟩
    let listed := first.after host (.elapse (hostDevices host s).2)
    obtain ⟨c, ⟨hrun, hbus, hworld⟩, hlen⟩ :=
      reached_foldl host settings listed (settings.selected (hostDevices host s).1)
    have hlisted : Reached host TakesOffer first listed := Reached.first.after (.elapse _) trivial
    exact ⟨c, ⟨hlisted.trans hrun, hbus, hworld⟩, hlen.trans (Nat.zero_add _)⟩

/-! ## Actions -/

variable {k : Controller σ}

theorem reached_handOver (hbus : c.bus = k.bus) (d : Dispatch) :
    ∃ c', c.LeadsTo host (k.handOver d c.world).1.bus (k.handOver d c.world).2 c' := by
  unfold handOver
  split
  · exact ⟨c, .first, hbus, rfl⟩
  · rename_i t _
    let handed (s : σ) := c.after host (.elapse s)
    have hrun (s : σ) : Reached host TakesOffer c (handed s) :=
      Reached.first.after (.elapse s) trivial
    split
    · exact ⟨handed _, hrun _, hbus, rfl⟩
    · rename_i e s _
      refine ⟨(handed s).after host (.fail d.id e), (hrun s).after _ trivial, ?_, rfl⟩
      show c.bus.fail d.id e = k.bus.fail d.id e
      rw [hbus]

theorem reached_followUp (op : Operation σ) (hop : c.TakesOffer op)
    {r : Except UsbError Dispatch × Bus σ × σ}
    (hr : c.bus.call host c.world op = (.dispatch r.1, r.2)) :
    ∃ c', c.LeadsTo host (k.followUp r).2.1.bus (k.followUp r).2.2 c' := by
  have hcall : c.after host op = ⟨r.2.1, r.2.2, (op, .dispatch r.1) :: c.past⟩ := by
    unfold Scene.after
    rw [hr]
  have hrun : Reached host TakesOffer c (c.after host op) := Reached.first.after op hop
  rw [hcall] at hrun
  obtain ⟨_ | d, b, s⟩ := r
  · exact ⟨_, hrun, rfl, rfl⟩
  · obtain ⟨c', hrun', hbus, hworld⟩ := reached_handOver (k := { k with bus := b })
      (c := ⟨b, s, (op, .dispatch (.ok d)) :: c.past⟩) rfl d
    exact ⟨c', hrun.trans hrun', hbus, hworld⟩

theorem reached_deliver (hhost : k.host = host) (hbus : c.bus = k.bus) (x : Completion) :
    ∃ c', c.LeadsTo host (k.deliver x c.world).1.bus (k.deliver x c.world).2 c' := by
  unfold deliver
  split
  · refine ⟨c.after host (.complete x), Reached.first.after _ trivial, ?_, ?_⟩
    · show (c.bus.complete host x c.world).1 = (k.bus.complete k.host x c.world).1
      rw [hhost, hbus]
    · show (c.bus.complete host x c.world).2 = (k.bus.complete k.host x c.world).2
      rw [hhost, hbus]
  · exact ⟨c, .first, hbus, rfl⟩

theorem host_deliver (k : Controller σ) (x : Completion) (s : σ) :
    (k.deliver x s).1.host = k.host := by
  unfold deliver
  split <;> rfl

theorem reached_deliverAll (hhost : k.host = host) (hbus : c.bus = k.bus) (xs : List Completion) :
    ∃ c', c.LeadsTo host (k.deliverAll xs c.world).1.bus (k.deliverAll xs c.world).2 c' := by
  unfold deliverAll
  induction xs generalizing k c with
  | nil => exact ⟨c, .first, hbus, rfl⟩
  | cons x xs ih =>
    obtain ⟨c₁, hrun₁, hbus₁, hworld₁⟩ := reached_deliver hhost hbus x
    obtain ⟨c₂, hrun₂, hrest⟩ := ih ((k.host_deliver x c.world).trans hhost) hbus₁
    rw [hworld₁] at hrest
    exact ⟨c₂, hrun₁.trans hrun₂, hrest⟩

/-- What a controller does to its bus is a run of calls. A call that is made of the bus directly
must take an offer if it attaches a device. -/
theorem reached_act (hhost : k.host = host) (hbus : c.bus = k.bus) (a : Action σ)
    (ha : ∀ op, a = .bus op → c.TakesOffer op) :
    ∃ c', c.LeadsTo host (k.act c.world a).2.1.bus (k.act c.world a).2.2 c' := by
  subst hhost
  cases a with
  | bus op =>
    refine ⟨c.after k.host op, Reached.first.after op (ha op rfl), ?_, ?_⟩
    · show (c.bus.call k.host c.world op).2.1 = (k.bus.call k.host c.world op).2.1
      rw [hbus]
    · show (c.bus.call k.host c.world op).2.2 = (k.bus.call k.host c.world op).2.2
      rw [hbus]
  | submitControl h setup buffer =>
    refine reached_followUp (.submitControl h setup buffer (k.clock c.world)) trivial ?_
    rw [hbus]
    rfl
  | submitInterrupt h endpoint buffer =>
    refine reached_followUp (.submitInterrupt h endpoint buffer (k.clock c.world)) trivial ?_
    rw [hbus]
    rfl
  | submitIsochronous h request =>
    refine reached_followUp (.submitIsochronous h request (k.clock c.world)) trivial ?_
    rw [hbus]
    rfl
  | deliver x => exact reached_deliver rfl hbus x
  | poll timeout =>
    let r := k.host.handleEvents timeout c.world
    let worked := c.after k.host (.elapse r.2)
    have hworked : Reached k.host TakesOffer c worked := Reached.first.after (.elapse r.2) trivial
    obtain ⟨c₁, hrun, hbus₁, hworld₁⟩ := reached_deliverAll (c := worked) rfl hbus r.1.1
    let now := (k.deliverAll r.1.1 r.2).1.clock c₁.world
    refine ⟨c₁.after k.host (.pump now), (hworked.trans hrun).after _ trivial, ?_, hworld₁⟩
    show (c₁.bus.pump ((k.deliverAll r.1.1 r.2).1.clock c₁.world)).2 =
      ((k.deliverAll r.1.1 r.2).1.bus.pump
        ((k.deliverAll r.1.1 r.2).1.clock (k.deliverAll r.1.1 r.2).2)).2
    rw [hworld₁, hbus₁]
    rfl
  | shutDown =>
    refine ⟨c.after k.host .clear, Reached.first.after _ trivial, ?_, ?_⟩
    · show (c.bus.clear k.host c.world).1 = (k.bus.clear k.host c.world).1
      rw [hbus]
    · show (c.bus.clear k.host c.world).2 = (k.bus.clear k.host c.world).2
      rw [hbus]

/-! ## Attaching -/

/-- **Devices at issued locations.** Let devices be attached only where a location was issued and
not used since. Locations are issued in turn and come round after 256, and attaching puts off what
stands at the location, whatever that is. As long as no more than 256 were issued, nothing stands
there: the device joins the bus, all else stays as it was, and no handle and no transfer of one
device leads to another, then or later. Starting a controller is such a run, with one location for
each device selected, and so is whatever the controller does after that. -/
theorem issue_of_reached {n : Nat} (hn : n ≤ UInt32.size) {latency : UInt64} {memory : Memory}
    {world : σ} (h : Reached host TakesOffer ⟨Bus.empty n latency memory, world, []⟩ c) :
    c.past.issued = (List.range c.past.issued.length).map .issuedAfter ∧
      (∀ d : Device σ, c.bus.Receives d (c.after host (.attach d)).bus) ∧
      (c.past.issued.length ≤ 256 →
        (∀ d : Device σ, d.state.location ∈ c.past.offers →
          c.bus.isAttached d.state.location = false ∧
          (c.after host (.attach d)).bus = c.bus.joinedBy d ∧
          (c.after host (.attach d)).world = c.world) ∧
        c.TellsApart host ⟨Bus.empty n latency memory, world, []⟩) ∧
      (∀ clock settings k s', settings.poolSize = n → settings.latency = latency →
        start host clock settings memory world = (.ok k, s') →
        ∃ c₀, Scene.LeadsTo host ⟨Bus.empty n latency memory, world, []⟩ k.bus s' c₀ ∧
          c₀.past.issued.length =
            (settings.selected ((host.deviceList world).1.toOption.getD [])).length) ∧
      ∀ k : Controller σ, k.host = host → c.bus = k.bus → ∀ a : Action σ,
        (∀ op, a = .bus op → c.TakesOffer op) →
        ∃ c', c.LeadsTo host (k.act c.world a).2.1.bus (k.act c.world a).2.2 c' := by
  have hissuing := h.issuing (Scene.issuing_empty n latency memory world)
  refine ⟨hissuing.turn, fun d => ?_, fun hfew => ⟨fun d hd => ?_, h.tellsApart hn hfew⟩, ?_, ?_⟩
  · exact Bus.receives_attach host c.world hissuing.settled d
  · have hfree := hissuing.isAttached_eq_false hfew hd
    have hattach := Bus.attach_of_free host c.world hfree
    exact ⟨hfree, congrArg (·.2.1) hattach, congrArg (·.2.2) hattach⟩
  · rintro clock settings k s' rfl rfl hstart
    exact reached_start hstart
  · intro k hhost hbus a ha
    exact reached_act hhost hbus a ha

end Controller

namespace Scene

def toyAt (location : Location) : Device Unit :=
  .emulated (({} : EmulatedSettings).device location)

/-- A new bus, on which the first location was issued and a device attached there. -/
def settledOnce : Scene Unit :=
  (after .none ⟨Bus.empty 2 0 (.blank 8), (), []⟩ .newLocation).after .none
    (.attach (toyAt (.ofIndex 1)))

theorem reached_settledOnce :
    Reached Host.none TakesOffer ⟨Bus.empty 2 0 (.blank 8), (), []⟩ settledOnce :=
  (Reached.first.after .newLocation trivial).after (.attach (toyAt (.ofIndex 1)))
    (List.mem_singleton_self _)

/-- The second location issued is free, and a device that is attached there stands next to the
first. -/
theorem issue_of_second :
    let c := settledOnce.after .none .newLocation
    c.bus.isAttached (.ofIndex 2) = false ∧
      (c.after .none (.attach (toyAt (.ofIndex 2)))).bus.attached =
        [⟨.ofIndex 1, ⟨0⟩⟩, ⟨.ofIndex 2, ⟨1⟩⟩] := by
  intro c
  have hrun : Reached Host.none TakesOffer ⟨Bus.empty 2 0 (.blank 8), (), []⟩ c :=
    reached_settledOnce.after .newLocation trivial
  obtain ⟨-, -, hfew, -⟩ := Controller.issue_of_reached (by decide) hrun
  obtain ⟨hfree, hbus, -⟩ := (hfew (by decide)).1 (toyAt (.ofIndex 2)) (List.mem_singleton_self _)
  refine ⟨hfree, ?_⟩
  rw [hbus]
  rfl

/-! ### Round the counter -/

def afterIssues (c : Scene Unit) : Nat → Scene Unit
  | 0 => c
  | n + 1 => (afterIssues c n).after .none .newLocation

theorem reached_afterIssues (c : Scene Unit) (n : Nat) :
    Reached Host.none TakesOffer c (c.afterIssues n) := by
  induction n with
  | zero => exact .first
  | succ n ih => exact ih.after .newLocation trivial

theorem bus_afterIssues (c : Scene Unit) (n : Nat) : (c.afterIssues n).bus =
    { c.bus with lastLocation := c.bus.lastLocation + UInt8.ofNat n } := by
  induction n with
  | zero =>
    rw [show UInt8.ofNat 0 = 0 from rfl, UInt8.add_zero]
    rfl
  | succ n ih =>
    show { (c.afterIssues n).bus with lastLocation := (c.afterIssues n).bus.lastLocation + 1 } = _
    rw [ih, UInt8.ofNat_add, ← UInt8.add_assoc]
    rfl

theorem mem_offers_afterIssues (c : Scene Unit) (n : Nat) :
    .ofIndex (c.bus.lastLocation + UInt8.ofNat (n + 1)) ∈ (c.afterIssues (n + 1)).past.offers := by
  have hlast : (c.afterIssues n).bus.newLocation.1 =
      .ofIndex (c.bus.lastLocation + UInt8.ofNat (n + 1)) := by
    show Location.ofIndex ((c.afterIssues n).bus.lastLocation + 1) = _
    rw [bus_afterIssues, UInt8.ofNat_add, ← UInt8.add_assoc]
    rfl
  rw [← hlast]
  exact List.mem_append_right _ (List.mem_singleton_self _)

def openedOnce : Scene Unit := settledOnce.after .none (.openByIds 0 0)

/-- The bus of `openedOnce` after each location was issued once more, that of the device last. -/
def goneRound : Scene Unit := openedOnce.afterIssues 256

theorem bus_goneRound : goneRound.bus = openedOnce.bus := by
  have hround : openedOnce.bus.lastLocation + UInt8.ofNat 256 = openedOnce.bus.lastLocation := rfl
  unfold goneRound
  rw [bus_afterIssues, hround]

/-- A device stands open at the location that was issued last. Another that is attached there puts
it off the bus, so there is still one. -/
theorem issue_comes_round :
    Reached Host.none TakesOffer ⟨Bus.empty 2 0 (.blank 8), (), []⟩ goneRound ∧
      Location.ofIndex 1 ∈ goneRound.past.offers ∧
      goneRound.bus.attached = [⟨.ofIndex 1, ⟨0⟩⟩] ∧ goneRound.bus.opened = [⟨.ofIndex 1, ⟨0⟩⟩] ∧
      (goneRound.after .none (.attach (toyAt (.ofIndex 1)))).bus.attached =
        [⟨.ofIndex 1, ⟨1⟩⟩] ∧
      (goneRound.after .none (.attach (toyAt (.ofIndex 1)))).bus.opened = [] := by
  have hrun : Reached Host.none TakesOffer ⟨Bus.empty 2 0 (.blank 8), (), []⟩ goneRound :=
    (reached_settledOnce.after (.openByIds 0 0) trivial).trans (reached_afterIssues _ 256)
  have hattach : (goneRound.after .none (.attach (toyAt (.ofIndex 1)))).bus =
      (openedOnce.bus.attach .none (toyAt (.ofIndex 1)) ()).2.1 := by
    rw [← bus_goneRound]
    rfl
  refine ⟨hrun, mem_offers_afterIssues openedOnce 255, ?_, ?_, ?_, ?_⟩
  · rw [bus_goneRound]
    rfl
  · rw [bus_goneRound]
    rfl
  · rw [hattach]
    rfl
  · rw [hattach]
    rfl

end Scene

end VirtualUsb
