import VirtualUsb.Proofs.Bus.Configurations
import VirtualUsb.Proofs.Bus.History

/-!
# Configurations that are read again

A device of the host that has not given all its configurations is asked for all of them again when
its descriptors are read the next time, and what it knew is replaced by what it says then
(`Passthrough.ReadsAs`). So a configuration that was read is lost when the device does not give it
again (`Scene.configuration_is_lost`), and in no other way. Once all configurations are known, the
device is not asked again and they stay (`Scene.rereading_of_reached`).
-/

namespace VirtualUsb

/-! ## Readings -/

namespace Passthrough

variable {σ : Type} (host : Host σ)

/-- What a device says when it is asked for one configuration, if it says anything. -/
def reply (handle : HostHandle) (timeout : Nat) (index : UInt8) (s : σ) : Option Bytes :=
  let buffer := List.replicate readSize 0
  Exchange.replyIn buffer (host.controlSync handle (StandardRequest.askDescriptor
    DescriptorKind.configuration index (UInt16.ofNat readSize)) buffer timeout s).1

/-- What it says when it is asked for some configurations one after another. -/
def replies (handle : HostHandle) (timeout : Nat) : List UInt8 → σ → List (Option Bytes)
  | [], _ => []
  | index :: rest, s =>
    reply host handle timeout index s ::
      replies handle timeout rest (readConfiguration host handle timeout index s).2

/-- What a device says when its descriptors are read. It is asked nothing if all its configurations
are known, or if it is not open and the host does not open it. -/
def heard (p : Passthrough) (s : σ) : Option (List (Option Bytes)) :=
  if p.complete then none
  else
    match p.handle with
    | some handle => some (replies host handle p.readTimeout p.configurationIndices s)
    | none =>
      match host.openDevice p.device.id s with
      | (.error _, _) => none
      | (.ok handle, s) => some (replies host handle p.readTimeout p.configurationIndices s)

theorem readConfiguration_fst (handle : HostHandle) (timeout : Nat) (index : UInt8) (s : σ) :
    (readConfiguration host handle timeout index s).1 =
      Configuration.ofReply (reply host handle timeout index s) := by
  unfold readConfiguration reply
  dsimp only
  split
  all_goals
    rename_i he
    rw [he]
    rfl

theorem readConfigurations_fst (handle : HostHandle) (timeout : Nat) (indices : List UInt8)
    (s : σ) : (readConfigurations host handle timeout indices s).1 =
      (replies host handle timeout indices s).filterMap Configuration.ofReply := by
  induction indices generalizing s with
  | nil => rfl
  | cons index rest ih =>
    rw [readConfigurations, replies, List.filterMap_cons]
    dsimp only
    rw [readConfiguration_fst, ih]
    cases Configuration.ofReply (reply host handle timeout index s) <;> rfl

theorem length_replies (handle : HostHandle) (timeout : Nat) (indices : List UInt8) (s : σ) :
    (replies host handle timeout indices s).length = indices.length := by
  induction indices generalizing s with
  | nil => rfl
  | cons index rest ih => exact congrArg (· + 1) (ih _)

variable (p : Passthrough) (s : σ)

/-- What becomes of a device that is to read its descriptors. -/
structure ReadsAs (p : Passthrough) (s : σ) : Prop where
  /-- If it is asked nothing, it is as it was. -/
  unasked : p.heard host s = none → (p.readDescriptors host s).1 = p
  /-- Else it knows just the configurations that its replies can be parsed as. -/
  asked : ∀ rs, p.heard host s = some rs → rs.length = p.numConfigurations.toNat ∧
    (p.readDescriptors host s).1 = p.withConfigurations (rs.filterMap Configuration.ofReply)
  /-- It is complete then if it gave all of them. -/
  complete : ∀ rs, p.heard host s = some rs → ((p.readDescriptors host s).1.complete = true ↔
    ∀ r ∈ rs, (Configuration.ofReply r).isSome = true)

theorem readDescriptors_fst : (p.readDescriptors host s).1 =
    match p.heard host s with
    | none => p
    | some rs => p.withConfigurations (rs.filterMap Configuration.ofReply) := by
  unfold readDescriptors heard
  split
  · rfl
  · cases p.handle with
    | some handle => exact congrArg p.withConfigurations (readConfigurations_fst ..)
    | none =>
      dsimp only
      rcases host.openDevice p.device.id s with ⟨_ | handle, s'⟩
      · rfl
      · exact congrArg p.withConfigurations (readConfigurations_fst ..)

/-- What is heard is what the device says to requests for all its configurations. -/
theorem exists_replies {rs : List (Option Bytes)} (h : p.heard host s = some rs) :
    ∃ handle s', rs = replies host handle p.readTimeout p.configurationIndices s' := by
  unfold heard at h
  by_cases hc : p.complete = true
  · rw [if_pos hc] at h
    exact nomatch h
  · rw [if_neg hc] at h
    cases hp : p.handle with
    | some handle =>
      rw [hp] at h
      exact ⟨handle, s, (Option.some.inj h).symm⟩
    | none =>
      rw [hp] at h
      dsimp only at h
      generalize host.openDevice p.device.id s = answer at h
      obtain ⟨_ | handle, s'⟩ := answer
      · exact nomatch h
      · exact ⟨handle, s', (Option.some.inj h).symm⟩

theorem length_heard {rs : List (Option Bytes)} (h : p.heard host s = some rs) :
    rs.length = p.numConfigurations.toNat := by
  obtain ⟨handle, s', rfl⟩ := p.exists_replies host s h
  rw [length_replies, configurationIndices, List.length_map, List.length_range]

theorem readsAs : p.ReadsAs host s := by
  have hfst := p.readDescriptors_fst host s
  have hasked (rs) (h : p.heard host s = some rs) : (p.readDescriptors host s).1 =
      p.withConfigurations (rs.filterMap Configuration.ofReply) := by
    rw [hfst, h]
  refine ⟨fun h => ?_, fun rs h => ⟨p.length_heard host s h, hasked rs h⟩, fun rs h => ?_⟩
  · rw [hfst, h]
  · rw [hasked rs h, ← List.filterMap_length_eq_length, p.length_heard host s h]
    exact beq_iff_eq

/-! ### What other methods leave -/

variable {p} {q : Passthrough} {call : DeviceCall} {made : HostLog}

theorem Deals.descriptors (hd : p.Deals call made q) :
    call = .readDescriptors ∨ q.state.descriptors = p.state.descriptors := by
  cases hd with
  | unread | peeked | read => exact .inl rfl
  | _ => exact .inr rfl

/-- Whether some calls of the host, made by a method, asked the device for nothing, and opened no
handle but to open the device. -/
structure AsksNothing (call : Option DeviceCall) (made : HostLog) : Prop where
  unasked : ∀ h, .controlSync h ∉ made
  opened : ∀ id answer, .openDevice id answer ∈ made → call = some .openForUse

/-- A device that knows all its configurations is not asked again, and knows them for good. -/
theorem Deals.of_complete (hd : p.Deals call made q) (hc : p.complete = true) :
    q.complete = true ∧ q.state.descriptors = p.state.descriptors ∧
      AsksNothing (some call) made := by
  cases hd with
  | aside hmade | selected hmade =>
    refine ⟨hc, rfl, ⟨fun h hmem => ?_, fun id a hmem => ?_⟩⟩
    all_goals exact nomatch hmade _ hmem
  | unopened | unclaimed | opened => exact ⟨hc, rfl, ⟨fun h => by simp, fun _ _ _ => rfl⟩⟩
  | closed _ hrow =>
    refine ⟨hc, rfl, ⟨fun h hmem => ?_, fun id a hmem => ?_⟩⟩
    all_goals
      obtain e | hmem := List.mem_cons.1 hmem
      · exact nomatch e
      · obtain ⟨i, a, e⟩ := hrow _ hmem
        exact nomatch e
  | unread _ hread | peeked _ hread | read _ hread => exact nomatch hread.symm.trans hc
  | claimed | refused | released =>
    refine ⟨hc, rfl, ⟨fun h hmem => ?_, fun id a hmem => ?_⟩⟩
    all_goals exact nomatch List.mem_singleton.1 hmem

end Passthrough

/-! ## Turns -/

namespace HostTurn

variable {σ : Type} {host : Host σ} {t : HostTurn σ} {q : Passthrough}

/-- Whether a configuration is lost in a turn: the descriptors of the device are read, and nothing
that it says can be parsed as that configuration. -/
def Loses (host : Host σ) (t : HostTurn σ) (tree : DescriptorTree) : Prop :=
  t.call = some .readDescriptors ∧ ∃ rs, t.device.heard host.logged t.world = some rs ∧
    ∀ r ∈ rs, Configuration.ofReply r ≠ some tree

theorem Leaves.mem_children (h : t.Leaves host q) {tree : DescriptorTree}
    (hmem : tree ∈ t.device.state.descriptors.children) (hkept : ¬ t.Loses host tree) :
    tree ∈ q.state.descriptors.children := by
  unfold Leaves at h
  split at h
  · rename_i call hcall
    obtain ⟨hq, hdeals⟩ := h
    rcases hdeals.descriptors with rfl | e
    · have hq : (t.device.readDescriptors host.logged t.world).1 = q := Device.passthrough.inj hq
      have hreads := t.device.readsAs host.logged t.world
      cases hheard : t.device.heard host.logged t.world with
      | none =>
        rw [← hq, hreads.unasked hheard]
        exact hmem
      | some rs =>
        rw [← hq, (hreads.asked rs hheard).2]
        by_contra hnot
        refine hkept ⟨hcall, rs, hheard, fun r hr e => hnot ?_⟩
        exact List.mem_filterMap.2 ⟨r, hr, e⟩
    · rw [e]
      exact hmem
  · obtain ⟨made, -, hdeals⟩ := h
    rcases hdeals.descriptors with e | e
    · exact nomatch e
    · rw [e]
      exact hmem

theorem Leaves.of_complete (h : t.Leaves host q) (hc : t.device.complete = true) :
    q.complete = true ∧ q.state.descriptors = t.device.state.descriptors ∧
      Passthrough.AsksNothing t.call t.made := by
  unfold Leaves at h
  split at h
  · rename_i call hcall
    rw [hcall]
    exact h.2.of_complete hc
  · rename_i hcall
    obtain ⟨made, e, hdeals⟩ := h
    obtain ⟨hcomplete, hsame, hnothing⟩ := hdeals.of_complete hc
    refine ⟨hcomplete, hsame, fun h hmem => ?_, fun id a hmem => ?_⟩
    all_goals rw [e] at hmem
    · exact hnothing.unasked h ((List.mem_cons.1 hmem).resolve_left nofun)
    · exact nomatch hnothing.opened id a ((List.mem_cons.1 hmem).resolve_left nofun)

end HostTurn

/-! ## Runs -/

namespace Scene

variable {σ : Type} {host : Host σ} {first c : Scene (σ × HostLog)} {turns : List (HostTurn σ)}
  {key : DeviceKey} {p q : Passthrough}

/-- A configuration stays for as long as no turn of the device loses it. -/
theorem History.mem_children (h : History host first c turns)
    (hp : first.bus.roster.get? key = some (.passthrough p)) {tree : DescriptorTree}
    (hmem : tree ∈ p.state.descriptors.children)
    (hkept : ∀ t ∈ turns, t.key = key → ¬ t.Loses host tree)
    (hq : c.bus.roster.get? key = some (.passthrough q)) :
    tree ∈ q.state.descriptors.children := by
  refine (h.device (P := fun p turns => (∀ t ∈ turns, t.key = key → ¬ t.Loses host tree) →
    tree ∈ p.state.descriptors.children) ?_ ?_ ?_ ?_).1 q hq hkept
  · rintro p' hp' -
    obtain rfl := Device.passthrough.inj (Option.some.inj (hp.symm.trans hp'))
    exact hmem
  · intro hsize
    exact absurd hsize (Roster.index_lt_of_get? hp).not_ge
  · intro t q turns hkey hq hx hall
    obtain ⟨ht, hrest⟩ := List.forall_mem_cons.1 hall
    exact hq.mem_children (hx hrest) (ht hkey)
  · intro t p turns _ hx hall
    exact hx (List.forall_mem_cons.1 hall).2

/-- A device that knows all its configurations knows them for good, and is asked no more. -/
theorem History.of_complete (h : History host first c turns)
    (hp : first.bus.roster.get? key = some (.passthrough p)) (hc : p.complete = true) :
    (∀ q, c.bus.roster.get? key = some (.passthrough q) →
        q.complete = true ∧ q.state.descriptors = p.state.descriptors) ∧
      ∀ t ∈ turns, t.key = key → Passthrough.AsksNothing t.call t.made := by
  let P (q : Passthrough) (_ : List (HostTurn σ)) : Prop :=
    q.complete = true ∧ q.state.descriptors = p.state.descriptors
  have hdevice : (∀ q, c.bus.roster.get? key = some (.passthrough q) → P q turns) ∧
      ∀ t ∈ turns, t.key = key → ∃ earlier, P t.device earlier := by
    refine h.device ?_ ?_ ?_ fun _ _ _ _ hx => hx
    · intro p' hp'
      obtain rfl := Device.passthrough.inj (Option.some.inj (hp.symm.trans hp'))
      exact ⟨hc, rfl⟩
    · intro hsize
      exact absurd hsize (Roster.index_lt_of_get? hp).not_ge
    · rintro t q turns - hq ⟨hcomplete, hsame⟩
      obtain ⟨hcomplete', hsame', -⟩ := hq.of_complete hcomplete
      exact ⟨hcomplete', hsame'.trans hsame⟩
  refine ⟨hdevice.1, fun t ht hkey => ?_⟩
  obtain ⟨q, hq⟩ := h.exists_leaves t ht
  obtain ⟨-, hcomplete, -⟩ := hdevice.2 t ht hkey
  exact (hq.of_complete hcomplete).2.2

/-- **What is read again may be lost.** Take any calls of a bus with a device of the host, and
whatever the host answered. A device that is to read its descriptors is asked nothing if it knows
all its configurations or no handle is to be had, and is then as it was; else it knows just what it
gives this time. So a configuration that it knew stays for as long as it is given in every reading
for which the device is asked again. Once all are known, they stay as they are, whatever comes: the
device is not asked again, and no handle is opened but to open the device. -/
theorem rereading_of_reached (h : Reached host.logged (fun c op => c.KeepsHistory op) first c)
    (h0 : first.bus.roster.IsApart) (hp : first.bus.roster.get? key = some (.passthrough p)) :
    (∃ turns, History host first c turns) ∧ ∀ turns, History host first c turns →
      (∀ t ∈ turns, t.call = some .readDescriptors → t.device.ReadsAs host.logged t.world) ∧
      (∀ tree ∈ p.state.descriptors.children,
        (∀ t ∈ turns, t.key = key → ¬ t.Loses host tree) →
          ∀ q, c.bus.roster.get? key = some (.passthrough q) →
            tree ∈ q.state.descriptors.children) ∧
      (p.complete = true →
        (∀ q, c.bus.roster.get? key = some (.passthrough q) →
          q.complete = true ∧ q.state.descriptors = p.state.descriptors) ∧
        ∀ t ∈ turns, t.key = key → Passthrough.AsksNothing t.call t.made) := by
  refine ⟨(h.exists_history h0).2, fun turns hturns => ⟨fun t _ _ => ?_, ?_, ?_⟩⟩
  · exact t.device.readsAs host.logged t.world
  · exact fun tree hmem hkept q hq => hturns.mem_children hp hmem hkept hq
  · exact fun hc => hturns.of_complete hp hc

end Scene

/-! ### A host that fails later -/

/-- A host that gets the first configuration of a device for some time, and nothing from then on. -/
def Host.failing : Host Bool :=
  { Host.none with
    openDevice _ s := (.ok 1, s)
    controlSync _ setup _ _ s :=
      if s = true ∧ Bytes.low setup.value = 0 then (.ok (9, (bareConfiguration 2).toBytes), s)
      else (.error .timeout, s) }

namespace Scene

open Host (failing)

/-- A bus with a device that says that it has some configurations. It was asked for all of them. -/
def asked (n : UInt8) : Scene (Bool × HostLog) :=
  (Scene.after failing.logged ⟨Bus.empty 2 0 (.blank 16), (true, []), []⟩
    (.attach (.passthrough (.idle { id := 20, descriptor := { numConfigurations := n } })))).after
      failing.logged .enumerate

/-- The same bus after the host has begun to fail, and a guest wanted to have the first
configuration. -/
def askedAgain (n : UInt8) : Scene (Bool × HostLog) :=
  ((asked n).after failing.logged (.elapse (false, (asked n).world.2))).after failing.logged
    (.configDescriptor default 0)

theorem reached_asked (n : UInt8) : Reached failing.logged (fun c op => c.KeepsHistory op)
    ⟨Bus.empty 2 0 (.blank 16), (true, []), []⟩ (asked n) :=
  (Reached.first.after _ ⟨rfl, rfl⟩).after _ trivial

theorem reached_askedAgain (n : UInt8) :
    Reached failing.logged (fun c op => c.KeepsHistory op) (asked n) (askedAgain n) :=
  (Reached.first.after (.elapse _) rfl).after _ trivial

/-- What a device knows that is the only one on a bus. -/
def known (c : Scene (Bool × HostLog)) : Option (Bool × List DescriptorTree) :=
  ((c.bus.roster.get? ⟨0⟩).bind Device.ofHost?).map fun p =>
    (p.complete, p.state.descriptors.children)

theorem exists_of_known {c : Scene (Bool × HostLog)} {complete : Bool}
    {trees : List DescriptorTree} (h : c.known = some (complete, trees)) :
    ∃ p, c.bus.roster.get? ⟨0⟩ = some (.passthrough p) ∧ p.complete = complete ∧
      p.state.descriptors.children = trees := by
  obtain ⟨p, hp, e⟩ := Option.map_eq_some_iff.1 h
  obtain ⟨d, hd, hd'⟩ := Option.bind_eq_some_iff.1 hp
  obtain rfl := Device.eq_passthrough_of_ofHost? hd'
  exact ⟨p, hd, congrArg Prod.fst e, congrArg Prod.snd e⟩

/-- A device with one configuration knows it for good, though the host fails. -/
theorem rereading_of_single :
    ∃ p q, (asked 1).bus.roster.get? ⟨0⟩ = some (.passthrough p) ∧
      (askedAgain 1).bus.roster.get? ⟨0⟩ = some (.passthrough q) ∧
      p.state.descriptors.children = [bareConfiguration 2] ∧
      q.state.descriptors = p.state.descriptors := by
  have hbefore : (asked 1).known = some (true, [bareConfiguration 2]) := by decide +kernel
  have hafter : (askedAgain 1).known = some (true, [bareConfiguration 2]) := by decide +kernel
  obtain ⟨p, hp, hcomplete, hchildren⟩ := exists_of_known hbefore
  obtain ⟨q, hq, -⟩ := exists_of_known hafter
  have hapart : (asked 1).bus.roster.IsApart :=
    ((reached_asked 1).exists_history fun _ _ hd => nomatch hd).1
  obtain ⟨⟨turns, hturns⟩, hall⟩ := rereading_of_reached (reached_askedAgain 1) hapart hp
  obtain ⟨-, hsame⟩ := ((hall turns hturns).2.2 hcomplete).1 q hq
  exact ⟨p, q, hp, hq, hchildren, hsame⟩

/-- A device with two configurations has given one of them. When a guest wants to have it, the
device is asked again, gives nothing, and the configuration is lost. -/
theorem configuration_is_lost :
    Reached failing.logged (fun c op => c.KeepsHistory op)
        ⟨Bus.empty 2 0 (.blank 16), (true, []), []⟩ (asked 2) ∧
      Reached failing.logged (fun c op => c.KeepsHistory op) (asked 2) (askedAgain 2) ∧
      ∃ p q, (asked 2).bus.roster.get? ⟨0⟩ = some (.passthrough p) ∧
        (askedAgain 2).bus.roster.get? ⟨0⟩ = some (.passthrough q) ∧
        p.state.descriptors.children = [bareConfiguration 2] ∧
        q.state.descriptors.children = [] := by
  have hbefore : (asked 2).known = some (false, [bareConfiguration 2]) := by decide +kernel
  have hafter : (askedAgain 2).known = some (false, []) := by decide +kernel
  obtain ⟨p, hp, -, hchildren⟩ := exists_of_known hbefore
  obtain ⟨q, hq, -, hnone⟩ := exists_of_known hafter
  exact ⟨reached_asked 2, reached_askedAgain 2, p, q, hp, hq, hchildren, hnone⟩

end Scene

end VirtualUsb
