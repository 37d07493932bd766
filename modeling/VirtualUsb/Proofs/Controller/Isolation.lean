import VirtualUsb.Proofs.Bus.Shown
import VirtualUsb.Proofs.Controller.Issue

/-!
# Devices of the host that a guest cannot see

A session starts a controller and takes it through actions, between which the world may move on by
itself (`Controller.session`). Sessions with two hosts that differ only in devices for which there
is no filter are the same in all that a guest or a host can tell (`Controller.session_of_hidden`).
The step is `Controller.act_withInventory`: its invariant, that all devices on the bus are shown and
let the log be, is kept by every action (`Controller.guarded_act`).
-/

namespace VirtualUsb

/-- What a controller answers to an action. -/
inductive Reply
  | answer (answer : Answer)
  | transfer (answer : Except UsbError TransferId)
  | progress (answer : Except UsbError Unit)
  | done

namespace Controller

/-! ## Sessions -/

section

variable {σ : Type}

def reply (k : Controller σ) (s : σ) : Action σ → Reply
  | .bus op => .answer (k.bus.call k.host s op).1
  | .submitControl h setup buffer => .transfer (k.submitControl h setup buffer s).1
  | .submitInterrupt h endpoint buffer => .transfer (k.submitInterrupt h endpoint buffer s).1
  | .submitIsochronous h request => .transfer (k.submitIsochronous h request s).1
  | .poll timeout => .progress (k.poll timeout s).1
  | .deliver _ | .shutDown => .done

/-- A step of a session: something is done with the controller, or the world moves on by itself. -/
inductive Step (σ : Type) where
  | act (action : Action σ)
  | elapse (f : σ → σ)

/-- Takes a controller through some steps; the answers it gave, and what it is then. -/
def follow (k : Controller σ) (s : σ) : List (Step σ) → List Reply × Controller σ × σ
  | [] => ([], k, s)
  | .elapse f :: rest => k.follow (f s) rest
  | .act a :: rest =>
    let r := (k.act s a).2.1.follow (k.act s a).2.2 rest
    (k.reply s a :: r.1, r.2)

/-- A session from its start: the answers that were given and the bus that was left, unless the
controller did not start. -/
def session (host : Host σ) (clock : σ → UInt64) (c : Settings) (memory : Memory) (s : σ)
    (steps : List (Step σ)) : Except SettingsError (List Reply × Bus σ) × σ :=
  match start host clock c memory s with
  | (.error e, s) => (.error e, s)
  | (.ok k, s) =>
    let r := k.follow s steps
    (.ok (r.1, r.2.1.bus), r.2.2)

/-- Whether a call brings no device for one of the host's, and leaves it to the host what happens to
the log. -/
def IsPlainCall {τ : Type} : Operation (σ × τ) → Prop
  | .attach d => ¬ d.identity.IsPassthrough ∧ d.IsApart
  | .elapse _ => False
  | _ => True

/-- Whether a step is one that any guest may take, or one of the world alone. -/
def Step.IsPlain {τ : Type} : Step (σ × τ) → Prop
  | .act (.bus op) => IsPlainCall op
  | .act _ => True
  | .elapse f => ∀ s, (f s).2 = s.2

end

/-! ## The host of a controller -/

section

variable {σ : Type} (k : Controller σ)

theorem host_handOver (d : Dispatch) (s : σ) : (k.handOver d s).1.host = k.host := by
  unfold handOver
  repeat' split
  all_goals rfl

theorem host_followUp (r : Except UsbError Dispatch × Bus σ × σ) :
    (k.followUp r).2.1.host = k.host := by
  obtain ⟨_ | d, b, s⟩ := r
  · rfl
  · exact host_handOver { k with bus := b } d s

theorem host_deliverAll (xs : List Completion) (s : σ) : (k.deliverAll xs s).1.host = k.host := by
  unfold deliverAll
  induction xs generalizing k s with
  | nil => rfl
  | cons x xs ih => exact (ih (k.deliver x s).1 (k.deliver x s).2).trans (k.host_deliver x s)

theorem host_act (s : σ) (a : Action σ) : (k.act s a).2.1.host = k.host := by
  cases a with
  | bus | shutDown => rfl
  | submitControl | submitInterrupt | submitIsochronous => exact host_followUp k _
  | deliver x => exact k.host_deliver x s
  | poll timeout => exact host_deliverAll k _ _

end

/-! ## The invariant -/

section

variable {σ τ : Type} {shown : List HostDevice} {Q : τ → Prop}

/-- Whether all devices on the bus are shown and know nothing of the world's second part, of which
something holds. -/
def Guarded (shown : List HostDevice) (Q : τ → Prop) (k : Controller (σ × τ)) (s : σ × τ) : Prop :=
  Roster.Guarded shown Q (k.bus.roster, s)

theorem IsPlainCall.attach {op : Operation (σ × τ)} (h : IsPlainCall op) (d : Device (σ × τ))
    (e : op = .attach d) : d.Within shown ∧ d.IsApart := by
  subst e
  exact ⟨Device.within_of_not_isPassthrough h.1, h.2⟩

theorem IsPlainCall.ne_elapse {op : Operation (σ × τ)} (h : IsPlainCall op) (world : σ × τ) :
    op ≠ .elapse world := by
  rintro rfl
  exact h

variable {k : Controller (σ × τ)} {s : σ × τ} (hk : k.host.Keeps shown fun s => Q s.2)
  (hs : k.Guarded shown Q s)

include hk

theorem guarded_call (op : Operation (σ × τ)) (hs : k.Guarded shown Q s) (hop : IsPlainCall op) :
    Guarded shown Q { k with bus := (k.bus.call k.host s op).2.1 } (k.bus.call k.host s op).2.2 :=
  Bus.guarded_call hk hs op (fun d e => hop.attach d e) hop.ne_elapse

theorem guarded_handOver (hs : k.Guarded shown Q s) (d : Dispatch) :
    (k.handOver d s).1.Guarded shown Q (k.handOver d s).2 := by
  unfold handOver
  split
  · exact hs
  · rename_i t _
    have hhanded := hk.handOver t hs.kept
    split
    · rename_i he
      rw [he] at hhanded
      exact ⟨hs.within, hs.apart, hhanded⟩
    · rename_i e s' he
      rw [he] at hhanded
      have hroster : (k.bus.fail d.id e).roster = k.bus.roster := Bus.roster_fail k.bus d.id e
      unfold Guarded
      dsimp only
      rw [hroster]
      exact ⟨hs.within, hs.apart, hhanded⟩

theorem guarded_followUp {r : Except UsbError Dispatch × Bus (σ × τ) × σ × τ}
    (hr : Roster.Guarded shown Q (r.2.1.roster, r.2.2)) :
    (k.followUp r).2.1.Guarded shown Q (k.followUp r).2.2 := by
  obtain ⟨_ | d, b, s⟩ := r
  · exact hr
  · exact guarded_handOver (k := { k with bus := b }) hk hr d

include hs

theorem guarded_deliver (x : Completion) :
    (k.deliver x s).1.Guarded shown Q (k.deliver x s).2 := by
  unfold deliver
  split
  · exact guarded_call hk (.complete x) hs trivial
  · exact hs

theorem guarded_deliverAll (xs : List Completion) :
    (k.deliverAll xs s).1.Guarded shown Q (k.deliverAll xs s).2 := by
  unfold deliverAll
  induction xs generalizing k s with
  | nil => exact hs
  | cons x xs ih =>
    have hhost := k.host_deliver x s
    exact ih (hhost.symm ▸ hk) (guarded_deliver hk hs x)

/-- Every action keeps what the host keeps, and that all devices on the bus are shown. -/
theorem guarded_act {a : Action (σ × τ)} (ha : Step.IsPlain (.act a)) :
    (k.act s a).2.1.Guarded shown Q (k.act s a).2.2 := by
  cases a with
  | bus op => exact guarded_call hk op hs ha
  | submitControl h setup buffer =>
    exact guarded_followUp hk (guarded_call hk (.submitControl h setup buffer _) hs trivial)
  | submitInterrupt h endpoint buffer =>
    exact guarded_followUp hk (guarded_call hk (.submitInterrupt h endpoint buffer _) hs trivial)
  | submitIsochronous h request =>
    exact guarded_followUp hk (guarded_call hk (.submitIsochronous h request _) hs trivial)
  | deliver x => exact guarded_deliver hk hs x
  | poll timeout =>
    have hworked : k.Guarded shown Q (k.host.handleEvents timeout s).2 :=
      ⟨hs.within, hs.apart, hk.handleEvents hs.kept timeout⟩
    exact guarded_deliverAll hk hworked _
  | shutDown => exact guarded_call hk .clear hs trivial

end

/-! ## Two hosts -/

section

variable {σ τ : Type} {i : Inventory (σ × τ)} {shown : List HostDevice}
  {admitted : HostDevice → Prop} {Q : τ → Prop}

/-- The controller on a host with other devices plugged in. -/
def withInventory {σ : Type} (k : Controller σ) (i : Inventory σ) : Controller σ :=
  { k with host := k.host.withInventory i }

theorem handOver_withInventory {σ : Type} (k : Controller σ) (i : Inventory σ) (d : Dispatch)
    (s : σ) : (k.withInventory i).handOver d s =
      ((k.handOver d s).1.withInventory i, (k.handOver d s).2) := by
  unfold handOver
  cases d.submission with
  | none => rfl
  | some t =>
    dsimp only
    have hsame : (k.withInventory i).host.handOver t s = k.host.handOver t s :=
      Host.handOver_withInventory t s
    rw [hsame]
    rcases k.host.handOver t s with ⟨_ | _, s'⟩ <;> rfl

theorem followUp_withInventory {σ : Type} (k : Controller σ) (i : Inventory σ)
    (r : Except UsbError Dispatch × Bus σ × σ) : (k.withInventory i).followUp r =
      ((k.followUp r).1, (k.followUp r).2.1.withInventory i, (k.followUp r).2.2) := by
  obtain ⟨_ | d, b, s⟩ := r
  · rfl
  · exact congrArg (Prod.mk _) (handOver_withInventory { k with bus := b } i d s)

variable {k : Controller (σ × τ)} {s : σ × τ} (h : k.host.Conceals i shown admitted)
  (hk : k.host.Keeps shown fun s => Q s.2) (hs : k.Guarded shown Q s)

include h hs

theorem deliver_withInventory (x : Completion) : (k.withInventory i).deliver x s =
    ((k.deliver x s).1.withInventory i, (k.deliver x s).2) := by
  have hsame : (k.withInventory i).bus.complete (k.withInventory i).host x s =
      k.bus.complete k.host x s := Bus.complete_withInventory h hs.within s x
  unfold deliver
  rw [hsame]
  show (if k.running then _ else _) = _
  split <;> rfl

include hk

theorem deliverAll_withInventory (xs : List Completion) : (k.withInventory i).deliverAll xs s =
    ((k.deliverAll xs s).1.withInventory i, (k.deliverAll xs s).2) := by
  unfold deliverAll
  induction xs generalizing k s with
  | nil => rfl
  | cons x xs ih =>
    have hhost := k.host_deliver x s
    rw [List.foldl_cons, List.foldl_cons]
    dsimp only
    rw [deliver_withInventory h hs x]
    exact ih (hhost.symm ▸ h) (hhost.symm ▸ hk) (guarded_deliver hk hs x)

theorem poll_withInventory (timeout : Nat) : (k.withInventory i).poll timeout s =
    ((k.poll timeout s).1, (k.poll timeout s).2.1.withInventory i, (k.poll timeout s).2.2) := by
  have hworked : k.Guarded shown Q (k.host.handleEvents timeout s).2 :=
    ⟨hs.within, hs.apart, hk.handleEvents hs.kept timeout⟩
  have hall := deliverAll_withInventory h hk hworked (k.host.handleEvents timeout s).1.1
  have hsame : (k.withInventory i).host.handleEvents timeout s =
      k.host.handleEvents timeout s := rfl
  unfold poll
  rw [hsame]
  dsimp only
  rw [hall]
  rfl

theorem act_withInventory {a : Action (σ × τ)} (ha : Step.IsPlain (.act a)) :
    (k.withInventory i).reply s a = k.reply s a ∧
      (k.withInventory i).act s a =
        ((k.act s a).1, (k.act s a).2.1.withInventory i, (k.act s a).2.2) := by
  cases a with
  | bus op =>
    have hcall : (k.withInventory i).bus.call (k.withInventory i).host s op =
        k.bus.call k.host s op :=
      Bus.call_withInventory h hs.within s fun d e => (IsPlainCall.attach ha d e).1
    constructor
    · exact congrArg (fun r => Reply.answer r.1) hcall
    · unfold act
      dsimp only
      rw [hcall]
      rfl
  | submitControl | submitInterrupt | submitIsochronous =>
    have hsame := followUp_withInventory k i
    constructor
    · exact congrArg (fun r => Reply.transfer r.1) (hsame _)
    · exact congrArg (fun r => (r.1.toOption, r.2)) (hsame _)
  | deliver x => exact ⟨rfl, congrArg (Prod.mk none) (deliver_withInventory h hs x)⟩
  | poll timeout =>
    have hsame := poll_withInventory h hk hs timeout
    constructor
    · exact congrArg (fun r => Reply.progress r.1) hsame
    · exact congrArg (fun r => (none, r.2)) hsame
  | shutDown =>
    have hsame : (k.withInventory i).bus.clear (k.withInventory i).host s =
        k.bus.clear k.host s := Bus.clear_withInventory h hs.within s
    refine ⟨rfl, ?_⟩
    unfold act shutDown
    dsimp only
    rw [hsame]
    rfl

/-- No row of steps can tell whether the host has hidden devices besides. -/
theorem follow_withInventory {steps : List (Step (σ × τ))} (hsteps : ∀ x ∈ steps, x.IsPlain) :
    (k.withInventory i).follow s steps =
        ((k.follow s steps).1, (k.follow s steps).2.1.withInventory i, (k.follow s steps).2.2) ∧
      (k.follow s steps).2.1.Guarded shown Q (k.follow s steps).2.2 := by
  induction steps generalizing k s with
  | nil => exact ⟨rfl, hs⟩
  | cons x rest ih =>
    obtain ⟨hx, hrest⟩ := List.forall_mem_cons.1 hsteps
    cases x with
    | elapse f =>
      have hmoved : k.Guarded shown Q (f s) := by
        refine ⟨hs.within, hs.apart, ?_⟩
        rw [hx s]
        exact hs.kept
      exact ih h hk hmoved hrest
    | act a =>
      have hhost := k.host_act s a
      obtain ⟨hreply, hact⟩ := act_withInventory h hk hs hx
      obtain ⟨hsame, hguarded⟩ := ih (hhost.symm ▸ h) (hhost.symm ▸ hk) (guarded_act hk hs hx) hrest
      refine ⟨?_, hguarded⟩
      unfold follow
      rw [hreply, hact]
      dsimp only
      rw [hsame]

end

/-! ## The start -/

section

variable {σ : Type} {host : Host σ} {i : Inventory σ} {shown : List HostDevice} {c : Settings}

/-- The devices that are shown are not those that are hidden. -/
theorem shown_withInventory (h : host.Conceals i shown c.Admits) (s : σ) :
    c.shown (hostDevices (host.withInventory i) s).1 = c.shown (hostDevices host s).1 ∧
      (hostDevices (host.withInventory i) s).2 = (hostDevices host s).2 := by
  have hother : (host.withInventory i).deviceList s = i.deviceList s := rfl
  unfold hostDevices
  rw [hother]
  rcases h.deviceList_cases s with ⟨l, l', s', hl, hl', hsame⟩ | ⟨e, s', hl, hl'⟩
  · rw [hl, hl']
    exact ⟨(hsame.filter_eq fun d hd => decide_eq_false hd.1).symm, rfl⟩
  · rw [hl, hl']
    exact ⟨rfl, rfl⟩

/-- What is selected depends on the host's devices only as far as they are shown. -/
theorem selected_congr {l l' : List HostDevice} (h : c.shown l = c.shown l') :
    c.selected l = c.selected l' := by
  unfold Settings.selected
  rw [h]

theorem within_selected {l : List HostDevice} {x : Selected} (hx : x ∈ c.selected l)
    (location : Location) : (x.device c location : Device σ).Within (c.shown l) := by
  cases x with
  | emulated e => exact Device.within_of_not_isPassthrough id
  | host d =>
    intro location' device e
    obtain ⟨-, rfl⟩ := DeviceIdentity.passthrough.inj e
    rcases List.mem_append.1 hx with hx | hx
    · obtain ⟨d', hd', e⟩ := List.mem_map.1 hx
      exact Selected.host.inj e ▸ hd'
    · obtain ⟨_, -, e⟩ := List.mem_map.1 hx
      exact nomatch e

theorem reference_withInventory (h : host.Conceals i shown c.Admits) {x : Selected}
    (hx : (x.device c default : Device σ).Within shown) (s : σ) :
    x.reference (host.withInventory i) s = x.reference host s := by
  cases x with
  | host d => exact congrFun (h.reference d (hx _ _ rfl)) s
  | emulated e => rfl

theorem attachSelected_withInventory (h : host.Conceals i shown c.Admits) {b : Bus σ} {s : σ}
    (hb : b.roster.Within shown) {x : Selected}
    (hx : ∀ location, (x.device c location : Device σ).Within shown) :
    attachSelected (host.withInventory i) c (b, s) x = attachSelected host c (b, s) x := by
  rw [attachSelected_eq, attachSelected_eq, reference_withInventory h (hx _),
    Bus.attach_withInventory h (b := b.newLocation.2) hb _ (hx _)]

end

section

variable {σ τ : Type} {host : Host (σ × τ)} {i : Inventory (σ × τ)} {shown : List HostDevice}
  {c : Settings} {Q : τ → Prop} (hk : host.Keeps shown fun s => Q s.2)

include hk

theorem guarded_attachSelected {b : Bus (σ × τ)} {s : σ × τ}
    (hb : Roster.Guarded shown Q (b.roster, s)) {x : Selected}
    (hx : ∀ location, (x.device c location : Device (σ × τ)).Within shown) :
    Roster.Guarded shown Q ((attachSelected host c (b, s) x).1.roster,
      (attachSelected host c (b, s) x).2) := by
  have hreferenced : Q (x.reference host s).2 := by
    cases x with
    | host d => exact hk.reference hb.kept d (hx default _ _ rfl)
    | emulated e => exact hb.kept
  have hapart (location : Location) : (x.device c location : Device (σ × τ)).IsApart := by
    cases x with
    | host d => trivial
    | emulated e => exact fun p hp => nomatch hp
  rw [attachSelected_eq]
  refine Bus.guarded_call hk (b := b.newLocation.2) (s := x.reference host s)
    ⟨hb.within, hb.apart, hreferenced⟩ (.attach (x.device c b.newLocation.1)) ?_ nofun
  intro d e
  cases e
  exact ⟨hx _, hapart _⟩

theorem foldl_withInventory (h : host.Conceals i shown c.Admits) {p : Bus (σ × τ) × σ × τ}
    (hp : Roster.Guarded shown Q (p.1.roster, p.2)) {xs : List Selected}
    (hxs : ∀ x ∈ xs, ∀ location, (x.device c location : Device (σ × τ)).Within shown) :
    xs.foldl (attachSelected (host.withInventory i) c) p = xs.foldl (attachSelected host c) p ∧
      Roster.Guarded shown Q ((xs.foldl (attachSelected host c) p).1.roster,
        (xs.foldl (attachSelected host c) p).2) := by
  induction xs generalizing p with
  | nil => exact ⟨rfl, hp⟩
  | cons x xs ih =>
    obtain ⟨hx, hrest⟩ := List.forall_mem_cons.1 hxs
    rw [List.foldl_cons, List.foldl_cons, attachSelected_withInventory h hp.within hx]
    exact ih (guarded_attachSelected hk hp hx) hrest

/-- A controller that starts attaches devices that are shown, and no others. -/
theorem start_withInventory {s : σ × τ} (hs : Q s.2)
    (hshown : c.shown (hostDevices host s).1 = shown) (h : host.Conceals i shown c.Admits)
    (clock : σ × τ → UInt64) (memory : Memory) :
    start (host.withInventory i) clock c memory s =
        ((start host clock c memory s).1.map (·.withInventory i),
          (start host clock c memory s).2) ∧
      Q (start host clock c memory s).2.2 ∧
      ∀ k, (start host clock c memory s).1 = .ok k →
        k.host = host ∧ k.Guarded shown Q (start host clock c memory s).2 := by
  cases hfault : c.fault with
  | some e =>
    unfold start
    rw [hfault]
    exact ⟨rfl, hs, nofun⟩
  | none =>
    obtain ⟨hsame, honward⟩ := shown_withInventory h s
    have hlisted : Q (hostDevices host s).2.2 := by
      have hkept := hk.deviceList hs
      unfold hostDevices
      split
      all_goals
        rename_i hl
        rw [hl] at hkept
        exact hkept
    obtain ⟨hfold, hguarded⟩ := foldl_withInventory hk h
      (p := (Bus.empty c.poolSize c.latency memory, (hostDevices host s).2))
      ⟨fun _ _ hd => by simp [Bus.empty, Roster.get?] at hd,
        fun _ _ hd => by simp [Bus.empty, Roster.get?] at hd, hlisted⟩
      (fun x hx => hshown ▸ within_selected hx)
    rw [start_eq_foldl _ hfault, start_eq_foldl _ hfault]
    dsimp only
    rw [selected_congr hsame, honward, hfold]
    refine ⟨rfl, hguarded.kept, ?_⟩
    rintro _ ⟨⟩
    exact ⟨rfl, hguarded⟩

end

/-! ## Isolation -/

/-- **Devices without a filter are hidden.** Let two hosts do all alike, except that either may have
devices plugged in that no filter is for and that have names of their own: they may come anywhere in
the list, come and go, and answer as they please. Then a session is the same with both, whatever is
done and whatever else happens in the world. It starts with both or with neither, the answers are
the same, and so is the bus with its transfers and the memory of the guest. The same calls are made
to the host, and leave the world the same, which may remember all that it was ever asked. No call
names a device but those that were shown when the session started. -/
theorem session_of_hidden {σ : Type} {host : Host σ} {i : Inventory σ} {c : Settings} {s : σ}
    (h : host.Conceals i (c.shown ((host.deviceList s).1.toOption.getD [])) c.Admits)
    (clock : σ × HostLog → UInt64) (memory : Memory) {steps : List (Step (σ × HostLog))}
    (hsteps : ∀ x ∈ steps, x.IsPlain) :
    session (host.withInventory i).logged clock c memory (s, []) steps =
        session host.logged clock c memory (s, []) steps ∧
      HostLog.NamesOnly (c.shown ((host.deviceList s).1.toOption.getD []))
        (session host.logged clock c memory (s, []) steps).2.2 := by
  have hk := HostLog.keeps_namesOnly host (c.shown ((host.deviceList s).1.toOption.getD []))
  have hshown : c.shown (hostDevices host.logged (s, [])).1 =
      c.shown ((host.deviceList s).1.toOption.getD []) := by
    rw [hostDevices_fst]
    rfl
  obtain ⟨hstart, hnames, hok⟩ :=
    start_withInventory hk (s := (s, [])) nofun hshown h.logged clock memory
  unfold session
  rw [Host.logged_withInventory, hstart]
  generalize start host.logged clock c memory (s, []) = r at hnames hok ⊢
  obtain ⟨_ | k, s'⟩ := r
  · exact ⟨rfl, hnames⟩
  · obtain ⟨hhost, hguarded⟩ := hok k rfl
    have hfollow := follow_withInventory (hhost.symm ▸ h.logged) (hhost.symm ▸ hk) hguarded hsteps
    obtain ⟨hsame, hafter⟩ := hfollow
    refine ⟨?_, hafter.kept⟩
    dsimp only [Except.map]
    rw [hsame]
    rfl

/-! ### A crowded host -/

/-- Settings with a filter for the first product of vendor 9, and with an emulated device in place
of the second. -/
def choosy : Settings where
  passthrough := [⟨9, 1, ""⟩]
  emulated := [{ vendorId := 9, productId := 2, onlyIfAbsent := true }]

/-- A host with one device of each product, which counts how often one is opened. -/
def crowded : Host Nat :=
  { Host.none with
    deviceList s := (.ok [portal 5 1, portal 6 2], s)
    openDevice _ s := (.ok 40, s + 1)
    claim _ _ s := (.ok (), s) }

/-- The same device of the first product, between others, which cannot be opened. -/
def otherCrowd : Inventory Nat where
  deviceList s := (.ok [portal 7 3, portal 5 1, portal 8 2], s)
  reference _ s := s
  unreference _ s := s
  openDevice id s := if id = 5 then (.ok 40, s + 1) else (.error .io, s + 100)

theorem conceals_otherCrowd : crowded.Conceals otherCrowd [portal 5 1] choosy.Admits where
  listed s := .ok (.right (by decide) (.both _ (.left (by decide) (.right (by decide) .nil))))
  onward s := rfl
  reference d _ := rfl
  unreference d _ := rfl
  openDevice d hd := by
    obtain rfl := List.mem_singleton.1 hd
    rfl

/-- A device is opened and looked for on both hosts. Both show the emulated device next to it, in
spite of the other devices of that product, and receive the same calls. -/
theorem session_of_crowded :
    let steps : List (Step (Nat × HostLog)) :=
      [.act (.bus (.openByIds 9 1)), .elapse fun s => (s.1 + 7, s.2),
        .act (.bus (.checkConnected ⟨⟨0⟩, .ofIndex 1, 1⟩))]
    let r := session crowded.logged (fun _ => 0) choosy (.blank 8) (0, []) steps
    session (crowded.withInventory otherCrowd).logged (fun _ => 0) choosy (.blank 8) (0, [])
        steps = r ∧
      r.1.toOption.map (·.2.attached) = some [⟨.ofIndex 1, ⟨0⟩⟩, ⟨.ofIndex 2, ⟨1⟩⟩] ∧
      HostLog.NamesOnly [portal 5 1] r.2.2 ∧
      r.2 = (9, [.deviceList, .claim 40 0 (.ok ()), .autoDetach 40, .openDevice 5 (.ok 40),
        .closeHandle 40, .openDevice 5 (.ok 40), .reference 5, .deviceList]) := by
  intro steps r
  have hsteps : ∀ x ∈ steps, x.IsPlain := by
    refine List.forall_mem_cons.2 ⟨trivial, List.forall_mem_cons.2 ⟨fun s => rfl, ?_⟩⟩
    exact List.forall_mem_singleton.2 trivial
  obtain ⟨hsame, hnames⟩ := session_of_hidden (s := 0) (c := choosy) conceals_otherCrowd
    (fun _ => 0) (.blank 8) hsteps
  exact ⟨hsame, rfl, hnames, rfl⟩

end Controller

end VirtualUsb
