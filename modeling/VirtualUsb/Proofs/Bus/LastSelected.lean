import VirtualUsb.Proofs.Bus.Selection
import VirtualUsb.Proofs.Transfer.Descriptors

/-!
# The configuration selected last

A guest selects the configuration of an emulated device by a request of its own or by a control
transfer that says SET_CONFIGURATION (`Scene.Selects`); no other call changes it, whatever devices
stand on the bus. So in every scene of a run the configuration is the one selected last
(`Scene.Reached.selected`), and both ways to ask for it and all that is looked up by it go by this
one (`Scene.selected_of_reached`).
-/

namespace VirtualUsb

/-! ## Requests -/

namespace StandardRequest

theorem ofSetup_eq_setConfiguration_iff {setup : SetupPacket} {value : UInt8} :
    ofSetup setup = some (.setConfiguration value) ↔
      setup.requestType = 0x00 ∧ setup.request = 0x09 ∧ Bytes.low setup.value = value := by
  obtain ⟨hdevice, -, -⟩ := setup.requestType_iff
  constructor
  · intro h
    unfold ofSetup at h
    split at h
    case h_1 h₁ h₂ h₃ hr =>
      exact ⟨hdevice.1 ⟨h₁, h₂, h₃⟩, hr, setConfiguration.inj (Option.some.inj h)⟩
    all_goals exact nomatch h
  · rintro ⟨ht, hr, rfl⟩
    obtain ⟨h₁, h₂, h₃⟩ := hdevice.2 ht
    unfold ofSetup
    rw [h₁, h₂, h₃, hr]
    rfl

theorem ofSetup_eq_getConfiguration_iff {setup : SetupPacket} :
    ofSetup setup = some .getConfiguration ↔
      setup.requestType = 0x80 ∧ setup.request = 0x08 := by
  obtain ⟨-, -, hanswer⟩ := setup.requestType_iff
  constructor
  · intro h
    unfold ofSetup at h
    split at h
    case h_5 h₁ h₂ h₃ hr => exact ⟨hanswer.1 ⟨h₁, h₂, h₃⟩, hr⟩
    all_goals exact nomatch h
  · rintro ⟨ht, hr⟩
    obtain ⟨h₁, h₂, h₃⟩ := hanswer.2 ht
    unfold ofSetup
    rw [h₁, h₂, h₃, hr]
    rfl

end StandardRequest

namespace Emulated

variable {σ : Type} (e : Emulated σ)

theorem replies_getConfiguration {setup : SetupPacket}
    (h : setup.requestType = 0x80 ∧ setup.request = 0x08) :
    e.Replies setup [e.state.configuration] := by
  obtain ⟨-, -, hanswer⟩ := setup.requestType_iff
  refine ⟨?_, fun data s => ?_⟩
  · unfold SetupPacket.isIn
    rw [(hanswer.2 h.1).1]
    rfl
  · rw [serve_of_standard (StandardRequest.ofSetup_eq_getConfiguration_iff.2 h)]
    rfl

theorem configuration_of_selecting {setup : SetupPacket} {value : UInt8}
    (h : setup.requestType = 0x00 ∧ setup.request = 0x09 ∧ Bytes.low setup.value = value)
    (buffer : GuestBuffer) (v : Service) (s : σ) :
    (e.controlTransfer setup buffer v s).1.state.configuration = value := by
  unfold controlTransfer
  dsimp only
  rw [serve_of_standard (StandardRequest.ofSetup_eq_setConfiguration_iff.2 h)]
  rfl

theorem configuration_of_not_selecting {setup : SetupPacket}
    (h : ¬ (setup.requestType = 0x00 ∧ setup.request = 0x09)) (buffer : GuestBuffer)
    (v : Service) (s : σ) :
    (e.controlTransfer setup buffer v s).1.state.configuration = e.state.configuration := by
  unfold controlTransfer
  dsimp only
  cases hr : StandardRequest.ofSetup setup with
  | none =>
    unfold serve
    rw [hr]
    dsimp only
    split <;> rfl
  | some request =>
    rw [serve_of_standard hr]
    cases request with
    | setConfiguration value =>
      obtain ⟨ht, hn, -⟩ := StandardRequest.ofSetup_eq_setConfiguration_iff.1 hr
      exact absurd ⟨ht, hn⟩ h
    | _ => rfl

end Emulated

/-! ## What a call selects -/

/-- Whether a call can select a configuration at all. -/
def Operation.MaySelect {σ : Type} : Operation σ → Prop
  | .setConfiguration .. | .submitControl .. => True
  | _ => False

namespace Scene

variable {σ : Type}

/-- Whether a call selects a configuration of the device with a key: by a request under a handle by
which the device is open, or by a control transfer to it that is accepted and says
SET_CONFIGURATION. -/
inductive Selects (host : Host σ) (c : Scene σ) (key : DeviceKey) (value : UInt8) :
    Operation σ → Prop
  | request {h : Handle} {d : Device σ} (hd : c.bus.openedDevice h = some (key, d)) :
    Selects host c key value (.setConfiguration h value)
  | transfer {h : Handle} {d : Device σ} {setup : SetupPacket} {buffer : GuestBuffer}
      {now : UInt64} {a : Dispatch} (hd : c.bus.openedDevice h = some (key, d))
      (hsetup : setup.requestType = 0x00 ∧ setup.request = 0x09 ∧ Bytes.low setup.value = value)
      (hok : (c.bus.call host c.world (.submitControl h setup buffer now)).1 = .dispatch (.ok a)) :
    Selects host c key value (.submitControl h setup buffer now)

/-- Whether a value is the configuration of the device with a key that was selected last in a run
from one scene to another, or the one given if none was. -/
def Selected (host : Host σ) (key : DeviceKey) (first : Scene σ) (initial : UInt8) (c : Scene σ)
    (value : UInt8) : Prop :=
  (Reached host (fun c op => ∀ v, ¬ c.Selects host key v op) first c ∧ value = initial) ∨
    ∃ c₁ op, Reached host (fun _ _ => True) first c₁ ∧ c₁.Selects host key value op ∧
      Reached host (fun c op => ∀ v, ¬ c.Selects host key v op) (c₁.after host op) c

end Scene

namespace Roster

variable {σ : Type} {host : Host σ} {op : Operation σ} {r : Roster σ} {key : DeviceKey}
  {value : UInt8}

/-- Whether the device with a key, if there is one, is an emulated device that has a configuration
selected. -/
def Configures (r : Roster σ) (key : DeviceKey) (value : UInt8) : Prop :=
  ∀ d, r.get? key = some d → ∃ e, d = .emulated e ∧ e.state.configuration = value

/-- Another state of one device leaves what the others have selected. -/
theorem Configures.set_of_ne (h : r.Configures key value) {k : DeviceKey} {d : Device σ}
    (hd : r.get? k = some d) (hne : k ≠ key) (d' : Device σ) :
    (r.set k d').Configures key value := by
  intro x hx
  rw [get?_set_of_get? hd, if_neg hne] at hx
  exact h x hx

theorem configures_set {d : Device σ} (hd : r.get? key = some d) (e : Emulated σ) :
    (r.set key (.emulated e)).Configures key e.state.configuration := by
  intro x hx
  rw [get?_set_self hd] at hx
  exact ⟨e, (Option.some.inj hx).symm, rfl⟩

end Roster

theorem Device.configuration_perform {σ : Type} {op : Operation σ} {call : DeviceCall}
    (hcall : op.Makes call) (hop : ¬ op.MaySelect) (host : Host σ) (e : Emulated σ) (s : σ) :
    ∃ e', ((emulated e).perform host s call).1 = .emulated e' ∧
      e'.state.configuration = e.state.configuration := by
  cases call with
  | withState | setInterface => exact hcall.elim
  | setConfiguration value =>
    obtain ⟨h, rfl⟩ := hcall
    exact absurd trivial hop
  | controlTransfer setup buffer v =>
    obtain ⟨h, now, rfl⟩ := hcall
    exact absurd trivial hop
  | _ => exact ⟨e, rfl, rfl⟩

/-- Moves of a call that cannot select anything leave the selected configuration. -/
theorem Roster.Configures.move {σ : Type} {host : Host σ} {op : Operation σ} {key : DeviceKey}
    {value : UInt8} {x y : Roster σ × σ} (h : x.1.Configures key value) (hm : Move host op x y)
    (hop : ¬ op.MaySelect) (hnew : key = x.1.nextKey → ∀ d, op = .attach d →
      ∃ e, d = .emulated e ∧ e.state.configuration = value) : y.1.Configures key value := by
  intro d hd
  rcases hm.origin hd with hd₀ | ⟨d₀, call, hd₀, hcall, hperform⟩ | ⟨hkey, hattach⟩
  · exact h d hd₀
  · obtain ⟨e, rfl, rfl⟩ := h d₀ hd₀
    obtain ⟨e', he', hsame⟩ := Device.configuration_perform hcall hop host e x.2
    rw [hperform] at he'
    exact ⟨e', he', hsame⟩
  · exact hnew hkey d hattach

/-! ## Runs -/

/-- A control transfer is refused, and nothing changes, or the open device serves it. -/
theorem Bus.roster_submitControl {σ : Type} (b : Bus σ) (s : σ) (h : Handle) (setup : SetupPacket)
    (buffer : GuestBuffer) (now : UInt64) :
    let r := b.submitControl h setup buffer now s
    ((∀ a, r.1 ≠ .ok a) ∧ r.2.1.roster = b.roster) ∨
      ∃ key d v a, b.openedDevice h = some (key, d) ∧ r.1 = .ok a ∧
        r.2.1.roster = b.roster.set key (d.controlTransfer setup buffer v s).1 := by
  intro r
  unfold r submitControl dispatch
  split
  · exact .inl ⟨nofun, rfl⟩
  · rename_i key d hd
    split
    · exact .inl ⟨nofun, rfl⟩
    · exact .inr ⟨key, d, _, _, hd, rfl, rfl⟩

namespace Scene

variable {σ : Type} {host : Host σ} {c first : Scene σ} {key : DeviceKey} {value : UInt8}

/-- Whether after a call the device has the configuration selected that the call selects, or the one
that it had before if the call selects none. -/
def Notes (host : Host σ) (c : Scene σ) (key : DeviceKey) (value : UInt8) (op : Operation σ) :
    Prop :=
  ∃ value', (c.after host op).bus.roster.Configures key value' ∧
    (c.Selects host key value' op ∨ (∀ v, ¬ c.Selects host key v op) ∧ value' = value)

theorem notes_setConfiguration (h : c.bus.roster.Configures key value) (handle : Handle)
    (v : UInt8) : c.Notes host key value (.setConfiguration handle v) := by
  cases hd : c.bus.openedDevice handle with
  | none =>
    have hcall : c.bus.setConfiguration host handle v c.world =
        (.error .noDevice, c.bus, c.world) := by
      unfold Bus.setConfiguration
      rw [hd]
    refine ⟨value, ?_, .inr ⟨?_, rfl⟩⟩
    · show (c.bus.setConfiguration host handle v c.world).2.1.roster.Configures key value
      rw [hcall]
      exact h
    · rintro v' (⟨hd'⟩ | _)
      exact nomatch hd.symm.trans hd'
  | some found =>
    obtain ⟨k, d⟩ := found
    have hget := Bus.roster_of_openedDevice hd
    have hroster : (c.after host (.setConfiguration handle v)).bus.roster =
        c.bus.roster.set k (d.setConfiguration host v c.world).2.1 :=
      congrArg (fun r => r.2.1.roster) (Bus.setConfiguration_of_openedDevice host c.world hd v)
    unfold Notes
    rw [hroster]
    by_cases hk : k = key
    · subst hk
      obtain ⟨e, rfl, -⟩ := h d hget
      exact ⟨v, Roster.configures_set hget _, .inl (.request hd)⟩
    · refine ⟨value, h.set_of_ne hget hk _, .inr ⟨?_, rfl⟩⟩
      rintro v' (⟨hd'⟩ | _)
      exact hk (congrArg Prod.fst (Option.some.inj (hd.symm.trans hd')))

theorem notes_submitControl (h : c.bus.roster.Configures key value) (handle : Handle)
    (setup : SetupPacket) (buffer : GuestBuffer) (now : UInt64) :
    c.Notes host key value (.submitControl handle setup buffer now) := by
  unfold Notes
  rcases c.bus.roster_submitControl c.world handle setup buffer now with
    ⟨hrefused, hroster⟩ | ⟨k, d, v, a, hd, hok, hroster⟩
  · have hroster : (c.after host (.submitControl handle setup buffer now)).bus.roster =
      c.bus.roster := hroster
    rw [hroster]
    refine ⟨value, h, .inr ⟨?_, rfl⟩⟩
    rintro v (_ | ⟨-, -, hok⟩)
    exact hrefused _ (Answer.dispatch.inj hok)
  · have hroster : (c.after host (.submitControl handle setup buffer now)).bus.roster =
      c.bus.roster.set k (d.controlTransfer setup buffer v c.world).1 := hroster
    rw [hroster]
    have hget := Bus.roster_of_openedDevice hd
    by_cases hk : k = key
    · subst hk
      obtain ⟨e, rfl, rfl⟩ := h d hget
      have hset := Roster.configures_set hget (e.controlTransfer setup buffer v c.world).1
      by_cases hsetup : setup.requestType = 0x00 ∧ setup.request = 0x09
      · rw [e.configuration_of_selecting ⟨hsetup.1, hsetup.2, rfl⟩] at hset
        have hok : (c.bus.call host c.world (.submitControl handle setup buffer now)).1 =
          .dispatch (.ok a) := congrArg Answer.dispatch hok
        exact ⟨_, hset, .inl (.transfer hd ⟨hsetup.1, hsetup.2, rfl⟩ hok)⟩
      · rw [e.configuration_of_not_selecting hsetup] at hset
        refine ⟨_, hset, .inr ⟨?_, rfl⟩⟩
        rintro v' (_ | ⟨-, hsetup', -⟩)
        exact hsetup ⟨hsetup'.1, hsetup'.2.1⟩
    · refine ⟨value, h.set_of_ne hget hk _, .inr ⟨?_, rfl⟩⟩
      rintro v' (_ | ⟨hd', -, -⟩)
      exact hk (congrArg Prod.fst (Option.some.inj (hd.symm.trans hd')))

/-- A call that cannot select anything leaves what is selected, whatever else it does. -/
theorem configures_after_of_not_maySelect (h : c.bus.roster.Configures key value)
    {op : Operation σ} (hop : ¬ op.MaySelect)
    (hnew : c.bus.roster.entries.size ≤ key.index → ∀ d, op = .attach d →
      ∃ e, d = .emulated e ∧ e.state.configuration = value) :
    (c.after host op).bus.roster.Configures key value := by
  by_cases hel : ∃ world, op = .elapse world
  · obtain ⟨world, rfl⟩ := hel
    exact h
  · have hrow : Bus.Moves host op (c.bus, c.world) (c.bus.call host c.world op).2 :=
      Bus.moves_call c.bus c.world fun world e => hel ⟨world, e⟩
    -- keys are never taken back, so a device attached meanwhile has another one
    let P (x : Roster σ × σ) : Prop :=
      c.bus.roster.entries.size ≤ x.1.entries.size ∧ x.1.Configures key value
    have hkeep : P ((c.after host op).bus.roster, (c.after host op).world) := by
      refine hrow.keep (P := P) (fun x y hm hx => ?_) ⟨Nat.le_refl _, h⟩
      refine ⟨hx.1.trans hm.size_le, hx.2.move hm hop fun hkey d hattach => hnew ?_ d hattach⟩
      rw [hkey]
      exact hx.1
    exact hkeep.2

theorem notes_call (h : c.bus.roster.Configures key value)
    (hsize : key.index < c.bus.roster.entries.size) (op : Operation σ) :
    c.Notes host key value op := by
  by_cases hop : op.MaySelect
  · cases op with
    | setConfiguration handle v => exact notes_setConfiguration h handle v
    | submitControl handle setup buffer now => exact notes_submitControl h handle setup buffer now
    | _ => exact hop.elim
  · refine ⟨value, configures_after_of_not_maySelect h hop fun hle => absurd hsize hle.not_gt,
      .inr ⟨?_, rfl⟩⟩
    rintro v (_ | _) <;> exact hop trivial

/-- In every scene of a run an emulated device has the configuration selected that was selected
last. -/
theorem Reached.selected (h : Reached host (fun _ _ => True) first c)
    (h0 : first.bus.roster.Configures key value)
    (hsize : key.index < first.bus.roster.entries.size) :
    ∃ value', c.bus.roster.Configures key value' ∧ Selected host key first value c value' := by
  induction h with
  | first => exact ⟨value, h0, .inl ⟨.first, rfl⟩⟩
  | @after c op hc _ ih =>
    obtain ⟨v, hv, hselected⟩ := ih
    have hsize' : key.index < c.bus.roster.entries.size :=
      hc.moves (P := fun x => key.index < x.1.entries.size) hsize
        (fun _ _ _ _ _ hm hx => Nat.lt_of_lt_of_le hx hm.size_le) fun _ _ _ hx => hx
    obtain ⟨v', hv', hselects | ⟨hnone, rfl⟩⟩ := notes_call hv hsize' op
    · exact ⟨v', hv', .inr ⟨c, op, hc, hselects, .first⟩⟩
    · refine ⟨v', hv', ?_⟩
      rcases hselected with ⟨hrun, rfl⟩ | ⟨c₁, op₁, hc₁, hselects, hrun⟩
      · exact .inl ⟨hrun.after op hnone, rfl⟩
      · exact .inr ⟨c₁, op₁, hc₁, hselects, hrun.after op hnone⟩

end Scene

/-! ## What goes by the selection -/

namespace DescriptorTree

/-- Whether a configuration is the one chosen by a value: the first that has this value, or the very
first if none has it. -/
def IsChoice (trees : List DescriptorTree) (value : UInt8) (choice : Option DescriptorTree) :
    Prop :=
  (∃ before t after, trees = before ++ t :: after ∧ choice = some t ∧
      DeviceState.hasValue value t = true ∧ ∀ u ∈ before, DeviceState.hasValue value u = false) ∨
    (∀ u ∈ trees, DeviceState.hasValue value u = false) ∧ choice = trees.head?

end DescriptorTree

theorem DeviceState.isChoice_activeConfiguration (d : DeviceState) :
    DescriptorTree.IsChoice d.descriptors.children d.configuration d.activeConfiguration := by
  unfold activeConfiguration
  cases hfind : d.descriptors.children.find? (hasValue d.configuration) with
  | some t =>
    obtain ⟨ht, before, after, hsplit, hbefore⟩ := List.find?_eq_some_iff_append.1 hfind
    refine .inl ⟨before, t, after, hsplit, rfl, ht, fun u hu => ?_⟩
    exact Bool.not_eq_true' _ ▸ hbefore u hu
  | none =>
    refine .inr ⟨fun u hu => ?_, rfl⟩
    exact Bool.eq_false_iff.2 (List.find?_eq_none.1 hfind u hu)

namespace Scene

variable {σ : Type} {host : Host σ} {c : Scene σ} {key : DeviceKey} {e : Emulated σ}

/-- Whether all that is asked of an emulated device goes by the configuration with a value: requests
for the configuration selected, of either kind, packet sizes, and claims of interfaces. -/
structure GoesBy (host : Host σ) (c : Scene σ) (key : DeviceKey) (e : Emulated σ)
    (value : UInt8) : Prop where
  /-- A request for it is answered by the value. -/
  asked : ∀ h d, c.bus.openedDevice h = some (key, d) →
    c.bus.getConfiguration host h c.world = (.ok value, c.world)
  /-- GET_CONFIGURATION is accepted if a slot is idle, and brings the value to the guest. -/
  fetched : ∀ h d (setup : SetupPacket) (buffer : GuestBuffer) (now : UInt64),
    c.bus.openedDevice h = some (key, d) → setup.requestType = 0x80 → setup.request = 0x08 →
    1 ≤ setup.length.toNat → 1 ≤ buffer.len →
    (∃ id t, c.bus.pool.get? id = some t ∧ t.busy = false) →
    ∃ a, (c.bus.submitControl h setup buffer now c.world).1 = .ok a ∧
      Fetched host c (c.after host (.submitControl h setup buffer now)) a.id buffer.addr [value] 1
        (Time.after now c.bus.latency.toNat)
  /-- Packet sizes and interfaces are those of the configuration that the value chooses. -/
  chosen : ∃ choice, DescriptorTree.IsChoice e.state.descriptors.children value choice ∧
    (∀ location d endpoint, c.bus.knownDevice location = some (key, d) →
      (c.bus.maxPacketSize host location endpoint c.world).1 =
        match choice.bind (·.findEndpoint endpoint) with
        | none => .error .notFound
        | some x => .ok x.maxPacketSize) ∧
    ∀ h d interface, c.bus.openedDevice h = some (key, d) →
      (c.bus.claim host h interface c.world).1 =
        if ((choice.bind (·.decode? ConfigurationDescriptor)).map (·.numInterfaces)).getD 0 ≤
          interface then .error .invalidArgument else .ok ()

theorem goesBy_configuration (hn : c.bus.pool.Named)
    (he : c.bus.roster.get? key = some (.emulated e)) :
    c.GoesBy host key e e.state.configuration := by
  have hopened {h : Handle} {d : Device σ} (hd : c.bus.openedDevice h = some (key, d)) :
      c.bus.openedDevice h = some (key, .emulated e) := by
    rw [hd, Option.some.inj ((Bus.roster_of_openedDevice hd).symm.trans he)]
  have hknown {l : Location} {d : Device σ} (hd : c.bus.knownDevice l = some (key, d)) :
      c.bus.knownDevice l = some (key, .emulated e) := by
    rw [hd, Option.some.inj ((Bus.roster_of_knownDevice hd).symm.trans he)]
  refine ⟨fun h d hd => ?_, ?_, e.state.activeConfiguration,
    e.state.isChoice_activeConfiguration, fun l d endpoint hd => ?_, fun h d i hd => ?_⟩
  · unfold Bus.getConfiguration
    rw [hopened hd]
    rfl
  · intro h d setup buffer now hd htype hrequest hlength hlen hidle
    have hanswer := e.replies_getConfiguration ⟨htype, hrequest⟩
    obtain ⟨a, ha, hfetched⟩ := exists_fetched_of_idle hn hidle (hopened hd) hanswer buffer now
    have hone : min [e.state.configuration].length (min setup.length.toNat buffer.len) = 1 :=
      Nat.min_eq_left (Nat.le_min.2 ⟨hlength, hlen⟩)
    rw [hone] at hfetched
    exact ⟨a, ha, hfetched⟩
  · rw [Bus.maxPacketSize_fst, hknown hd]
    rfl
  · rw [Bus.claim_fst, hopened hd]
    rfl

/-- A device that is attached gets a key. -/
theorem nextKey_lt_attach (c : Scene σ) (d : Device σ) :
    c.bus.roster.nextKey.index < (c.after host (.attach d)).bus.roster.entries.size := by
  have hplaced : Bus.Moves host (.attach d)
      ({ c.bus with roster := c.bus.roster.enroll d }, c.world)
      (c.bus.attach host d c.world).2 := Bus.moves_place _ c.world _ _
  have henrolled : c.bus.roster.nextKey.index < (c.bus.roster.enroll d).entries.size := by
    rw [Roster.enroll, Array.size_push]
    exact Nat.lt_succ_self _
  exact hplaced.keep (P := fun x => c.bus.roster.nextKey.index < x.1.entries.size)
    (fun _ _ hm hx => Nat.lt_of_lt_of_le hx hm.size_le) henrolled

/-- **The configuration selected last counts.** Whatever calls were made of a new bus, attach an
emulated device to it that has configuration 1 selected, as a new device has, and go on with any
calls. For as long as the device is there it goes by the configuration that was selected last, be it
by a request or by SET_CONFIGURATION, and by 1 if none was. -/
theorem selected_of_reached {n : Nat} (hn : n ≤ UInt32.size) {latency : UInt64} {memory : Memory}
    {world : σ} {c₀ c : Scene σ}
    (h₀ : Reached host (fun _ _ => True) ⟨Bus.empty n latency memory, world, []⟩ c₀)
    {e : Emulated σ} (he : e.state.configuration = 1)
    (h : Reached host (fun _ _ => True) (c₀.after host (.attach (.emulated e))) c) {d : Device σ}
    (hd : c.bus.roster.get? c₀.bus.roster.nextKey = some d) :
    ∃ e' value, d = .emulated e' ∧
      Selected host c₀.bus.roster.nextKey (c₀.after host (.attach (.emulated e))) 1 c value ∧
      c.GoesBy host c₀.bus.roster.nextKey e' value := by
  have hnamed : c.bus.pool.Named :=
    h.named (h₀.after _ trivial |>.named (TransferPool.named_ofCapacity hn))
  have hfree : c₀.bus.roster.Configures c₀.bus.roster.nextKey 1 := by
    intro d hd
    unfold Roster.get? at hd
    rw [show c₀.bus.roster.entries[c₀.bus.roster.nextKey.index]? = none from
      Array.getElem?_size] at hd
    exact nomatch hd
  have hmade : (c₀.after host (.attach (.emulated e))).bus.roster.Configures
      c₀.bus.roster.nextKey 1 :=
    configures_after_of_not_maySelect hfree (fun hop => hop) fun _ d hattach =>
      ⟨e, (Operation.attach.inj hattach).symm, he⟩
  obtain ⟨value, hvalue, hselected⟩ := h.selected hmade (nextKey_lt_attach c₀ _)
  obtain ⟨e', rfl, rfl⟩ := hvalue d hd
  exact ⟨e', _, rfl, hselected, goesBy_configuration hnamed hd⟩

/-! ### A device with two configurations -/

/-- A new emulated device with two configurations. -/
def chooser : Emulated Unit :=
  ((Emulated.ofDescriptor {} default).addConfiguration (configurationWith 1 1 8)).addConfiguration
    (configurationWith 2 2 64)

/-- A bus with this device, which a guest has opened. A request has selected a configuration that it
does not have, and then SET_CONFIGURATION its second one. -/
def chosen : Scene Unit :=
  (((blank.after .none (.attach (.emulated chooser))).after .none (.openRecord default)).after .none
    (.setConfiguration default 9)).after .none
      (.submitControl default { request := 9, value := 0x102 } ⟨0, 0⟩ 0)

/-- Only the low byte of the last selection counts, and the packet size is that of the second
configuration. -/
theorem selected_of_chosen :
    Selected .none ⟨0⟩ (blank.after .none (.attach (.emulated chooser))) 1 chosen 2 ∧
      chosen.bus.getConfiguration .none default () = (.ok 2, ()) ∧
      (chosen.bus.maxPacketSize .none default 129 ()).1 = .ok 64 := by
  have hrun : Reached Host.none (fun _ _ => True)
      (blank.after .none (.attach (.emulated chooser))) chosen :=
    ((Reached.first.after _ trivial).after _ trivial).after _ trivial
  obtain ⟨d, hd⟩ : ∃ d, chosen.bus.roster.get? ⟨0⟩ = some d := ⟨_, rfl⟩
  have hblank : Reached Host.none (fun _ _ => True) blank blank := .first
  obtain ⟨e, value, -, hselected, hgoes⟩ := selected_of_reached (by decide) hblank rfl hrun hd
  have hasked : chosen.bus.getConfiguration .none default () = (.ok 2, ()) := rfl
  have hopened : chosen.bus.openedDevice default = some (⟨0⟩, _) := rfl
  obtain rfl : value = 2 :=
    Except.ok.inj (congrArg Prod.fst ((hgoes.asked default _ hopened).symm.trans hasked))
  exact ⟨hselected, hasked, by decide +kernel⟩

end Scene

end VirtualUsb
