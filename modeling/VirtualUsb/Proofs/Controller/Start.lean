import VirtualUsb.Proofs.Bus.Enumeration
import VirtualUsb.Proofs.Bus.Issued
import VirtualUsb.Proofs.Controller.Run
import VirtualUsb.Proofs.Settings.Construction

/-!
# What a controller starts with

`Settings.selected` says which devices settings select: those of the host that a filter is for, then
the emulated ones that give way to none of them. A controller that starts attaches them one after
another (`Controller.start_eq_foldl`), each next to those before it
(`Controller.attachSelected_stocked`), so its bus holds just these, in this order
(`Controller.start_of_settings`).
-/

namespace VirtualUsb

/-! ## Selected devices -/

/-- A device that settings select: one of the host, or an emulated one. -/
inductive Selected
  | host (device : HostDevice)
  | emulated (settings : EmulatedSettings)

namespace Selected

/-- The device that stands for a selected one, at a location. -/
def device {σ : Type} (c : Settings) (location : Location) : Selected → Device σ
  | host d => .passthrough {
      state := { location, descriptors := .ofLayout d.descriptor }
      device := d
      readTimeout := c.readTimeout.toNat * 1000 }
  | emulated e => .emulated (e.device location)

/-- What a selected device says of itself: one of the host has its own descriptor, and an emulated
one has one configuration. -/
def descriptor : Selected → DeviceDescriptor
  | host d => d.descriptor
  | emulated e => { e.deviceDescriptor with numConfigurations := 1 }

/-- The world once a device was selected: one of the host is referenced from then on. -/
def reference {σ : Type} (host : Host σ) (s : σ) : Selected → σ
  | .host d => host.reference d.id s
  | .emulated _ => s

theorem location_device {σ : Type} (c : Settings) (location : Location) (x : Selected) :
    (x.device c location : Device σ).state.location = location := by
  cases x <;> rfl

theorem deviceDescriptor_device {σ : Type} (c : Settings) (location : Location) (x : Selected) :
    (x.device c location : Device σ).state.deviceDescriptor = x.descriptor := by
  cases x with
  | host d => exact congrArg (Option.getD · _) (Descriptor.decode?_ofLayout d.descriptor)
  | emulated e =>
    have hdescriptors := e.descriptors_device (σ := σ) location
    show Option.getD ((e.device location : Emulated σ).state.descriptors.decode? _) _ = _
    rw [hdescriptors]
    exact congrArg (Option.getD · _) (Descriptor.decode?_ofLayout _)

end Selected

namespace Settings

/-- Whether some filter is for the vendor and product of a device of the host. -/
def Admits (c : Settings) (d : HostDevice) : Prop :=
  ∃ f ∈ c.passthrough,
    f.vendorId = d.descriptor.vendorId ∧ f.productId = d.descriptor.productId

instance (c : Settings) : DecidablePred c.Admits := fun d =>
  inferInstanceAs (Decidable (∃ f ∈ c.passthrough,
    f.vendorId = d.descriptor.vendorId ∧ f.productId = d.descriptor.productId))

/-- Whether an emulated device is for the case only that the host has no such device, and one of the
devices shown is of its vendor and product. -/
def GivesWay (shown : List HostDevice) (e : EmulatedSettings) : Prop :=
  e.onlyIfAbsent = true ∧
    ∃ d ∈ shown, d.descriptor.vendorId = e.vendorId ∧ d.descriptor.productId = e.productId

instance (shown : List HostDevice) : DecidablePred (GivesWay shown) := fun e =>
  inferInstanceAs (Decidable (e.onlyIfAbsent = true ∧ ∃ d ∈ shown,
    d.descriptor.vendorId = e.vendorId ∧ d.descriptor.productId = e.productId))

/-- The devices of the host that are shown to the guest, in the order of the host. -/
def shown (c : Settings) (listed : List HostDevice) : List HostDevice := listed.filter c.Admits

/-- The devices that settings select on a host which lists some devices. -/
def selected (c : Settings) (listed : List HostDevice) : List Selected :=
  (c.shown listed).map .host ++
    (c.emulated.filter fun e => ¬ GivesWay (c.shown listed) e).map .emulated

end Settings

/-! ## Devices in a row -/

namespace Bus

variable {σ : Type}

/-- A new bus with selected devices on it, in order, and nothing else. -/
def stocked (c : Settings) (memory : Memory) (xs : List Selected) : Bus σ :=
  { (empty c.poolSize c.latency memory : Bus σ) with
    attached := xs.mapIdx fun i _ => ⟨.issuedAfter i, ⟨i⟩⟩
    roster := ⟨(xs.mapIdx fun i x => some (x.device c (.issuedAfter i))).toArray⟩
    lastLocation := UInt8.ofNat xs.length }

variable {c : Settings} {memory : Memory} {xs : List Selected}

theorem newLocation_stocked : (stocked c memory xs : Bus σ).newLocation =
    (.issuedAfter xs.length,
      { stocked c memory xs with lastLocation := UInt8.ofNat (xs.length + 1) }) := by
  unfold newLocation Location.issuedAfter
  rw [UInt8.ofNat_add]
  rfl

theorem get?_stocked {i : Nat} {x : Selected} (h : xs[i]? = some x) :
    (stocked c memory xs : Bus σ).roster.get? ⟨i⟩ = some (x.device c (.issuedAfter i)) := by
  show Option.join (List.toArray _)[i]? = _
  rw [List.getElem?_toArray, List.getElem?_mapIdx, h]
  rfl

/-- As long as the counter has not gone round, no device stands at the next location. -/
theorem isAttached_stocked (h : xs.length < 256) :
    (stocked c memory xs : Bus σ).isAttached (.issuedAfter xs.length) = false := by
  refine List.any_eq_false.2 fun a ha => ?_
  obtain ⟨i, hi, rfl⟩ := List.mem_mapIdx.1 ha
  rw [beq_iff_eq, Location.issuedAfter_eq_iff]
  omega

theorem nodup_stocked (h : xs.length ≤ 256) :
    ((stocked c memory xs : Bus σ).attached.map (·.location)).Nodup := by
  have hmap : (stocked c memory xs : Bus σ).attached.map (·.location) =
      (List.range xs.length).map Location.issuedAfter := by
    refine List.ext_getElem? fun i => ?_
    show ((xs.mapIdx fun i _ => (⟨.issuedAfter i, ⟨i⟩⟩ : Attachment)).map (·.location))[i]? = _
    rw [List.getElem?_map, List.getElem?_mapIdx, List.getElem?_map]
    by_cases hi : i < xs.length
    · rw [List.getElem?_eq_getElem hi, List.getElem?_range hi]
      rfl
    · rw [List.getElem?_eq_none (by omega), List.getElem?_eq_none (by simpa using hi)]
      rfl
  rw [hmap]
  exact Location.nodup_issuedAfter h

theorem joinedBy_stocked (x : Selected) :
    joinedBy { stocked c memory xs with lastLocation := UInt8.ofNat (xs.length + 1) }
      (x.device c (.issuedAfter xs.length) : Device σ) = stocked c memory (xs ++ [x]) := by
  unfold joinedBy stocked Roster.enroll Roster.nextKey
  simp [List.mapIdx_append, x.location_device]

end Bus

namespace Controller

open Bus (stocked)

variable {σ : Type} (host : Host σ) (c : Settings) {memory : Memory} {xs : List Selected}

def attachSelected (p : Bus σ × σ) : Selected → Bus σ × σ
  | .host d => attachHostDevice host c p.1 p.2 d
  | .emulated e => attachEmulated host p.1 p.2 e

theorem attachSelected_eq (b : Bus σ) (s : σ) (x : Selected) :
    attachSelected host c (b, s) x =
      (b.newLocation.2.attach host (x.device c b.newLocation.1) (x.reference host s)).2 := by
  cases x <;> rfl

theorem attachSelected_stocked (h : xs.length < 256) (s : σ) (x : Selected) :
    attachSelected host c (stocked c memory xs, s) x =
      (stocked c memory (xs ++ [x]), x.reference host s) := by
  rw [attachSelected_eq, Bus.newLocation_stocked]
  dsimp only
  have hfree : Bus.isAttached
      { (stocked c memory xs : Bus σ) with lastLocation := UInt8.ofNat (xs.length + 1) }
      (x.device c (.issuedAfter xs.length) : Device σ).state.location = false := by
    have hnext : (stocked c memory xs : Bus σ).isAttached (.issuedAfter xs.length) = false :=
      Bus.isAttached_stocked h
    rw [x.location_device]
    exact hnext
  rw [Bus.attach_of_free host _ hfree, Bus.joinedBy_stocked]

theorem foldl_attachSelected (s : σ) (ys : List Selected) (h : xs.length + ys.length ≤ 256) :
    ys.foldl (attachSelected host c) (stocked c memory xs, s) =
      (stocked c memory (xs ++ ys), ys.foldl (Selected.reference host) s) := by
  induction ys generalizing xs s with
  | nil =>
    rw [List.append_nil]
    rfl
  | cons y ys ih =>
    rw [List.length_cons] at h
    have hlen : (xs ++ [y]).length = xs.length + 1 := List.length_append
    rw [List.foldl_cons, attachSelected_stocked host c (by omega), ih _ (by omega),
      List.append_assoc]
    rfl

/-! ## Starting -/

theorem shows_eq_decide (d : HostDevice) : shows c d = decide (c.Admits d) := by
  unfold shows Settings.filterFor
  rw [Bool.eq_iff_iff, List.find?_isSome, decide_eq_true_eq]
  simp only [Bool.and_eq_true, beq_iff_eq]
  rfl

theorem isReplaced_eq_decide (shown : List HostDevice) (e : EmulatedSettings) :
    isReplaced shown e = decide (Settings.GivesWay shown e) := by
  unfold isReplaced
  rw [Bool.eq_iff_iff, decide_eq_true_eq, Bool.and_eq_true, List.any_eq_true]
  simp only [Bool.and_eq_true, beq_iff_eq]
  rfl

variable {c}

/-- A controller starts by attaching the selected devices one after another. -/
theorem start_eq_foldl (h : c.fault = none) (clock : σ → UInt64) (memory : Memory) (s : σ) :
    start host clock c memory s =
      let listed := hostDevices host s
      let r := (c.selected listed.1).foldl (attachSelected host c)
        (Bus.empty c.poolSize c.latency memory, listed.2)
      (.ok { host, clock, bus := r.1 }, r.2) := by
  have hshown (l : List HostDevice) : l.filter (shows c) = c.shown l :=
    List.filter_congr fun d _ => shows_eq_decide c d
  have hkept (l : List HostDevice) : c.emulated.filter (fun e => !isReplaced l e) =
      c.emulated.filter fun e => ¬ Settings.GivesWay l e := by
    refine List.filter_congr fun e _ => ?_
    rw [isReplaced_eq_decide, decide_not]
  unfold start Settings.selected
  rw [h]
  dsimp only
  rw [List.foldl_append, List.foldl_map, List.foldl_map, hshown, hkept]
  rfl

theorem hostDevices_fst (s : σ) :
    (hostDevices host s).1 = (host.deviceList s).1.toOption.getD [] := by
  unfold hostDevices
  split <;> rename_i h <;> rw [h] <;> rfl

end Controller

/-! ## The next enumeration -/

namespace Bus

variable {σ : Type} (host : Host σ) (s : σ)

/-- Enumerating a bus that was just stocked gives one record for each device, in order. -/
theorem records_enumerate_stocked {c : Settings} {memory : Memory} {xs : List Selected}
    (h : xs.length ≤ maxRecords) :
    ((stocked c memory xs : Bus σ).enumerate host s).1.records = xs.mapIdx fun i x =>
      recordOf (UInt64.ofNat i) (i + 1) (.issuedAfter i) x.descriptor := by
  have htake : (stocked c memory xs : Bus σ).attached.take maxRecords =
      xs.mapIdx fun i _ => ⟨.issuedAfter i, ⟨i⟩⟩ :=
    List.take_of_length_le (Nat.le_trans (Nat.le_of_eq List.length_mapIdx) h)
  show (enumerateFrom host 1 _ (stocked c memory xs) s).1 = _
  rw [htake, records_enumerateFrom]
  refine List.ext_getElem? fun i => ?_
  simp only [List.getElem?_mapIdx, Option.map_map]
  cases hx : xs[i]? with
  | none => rfl
  | some x =>
    refine congrArg some ?_
    have hdescriptor : (stocked c memory xs : Bus σ).descriptorOf ⟨i⟩ = x.descriptor := by
      rw [descriptorOf, get?_stocked hx]
      exact x.deviceDescriptor_device c (.issuedAfter i)
    show recordOf (0 + _) (1 + i) (.issuedAfter i) (descriptorOf _ ⟨i⟩) = _
    rw [hdescriptor, UInt64.zero_add, Nat.add_comm]

end Bus

namespace Controller

variable {σ : Type}

/-- **A controller starts with the devices that its settings select.** It fails to start just if
there is something wrong with the settings, with the first thing that is wrong. Otherwise, if no
more than 255 devices are selected, its bus holds these and nothing else: first those of the host
that some filter is for, in the order of the host, then the emulated ones, in the order of the
settings, without those that give way. A host that cannot list its devices has none. No two of them
share a location, and the next enumeration, whenever it is made, has one record for each. -/
theorem start_of_settings (host : Host σ) (clock : σ → UInt64) (c : Settings) (memory : Memory)
    (s : σ) :
    let xs := c.selected ((host.deviceList s).1.toOption.getD [])
    (∀ e, (start host clock c memory s).1 = .error e ↔ c.fault = some e) ∧
      (c.fault = none → ∃ k, (start host clock c memory s).1 = .ok k ∧ (xs.length ≤ 255 →
        k.bus = Bus.stocked c memory xs ∧ (k.bus.attached.map (·.location)).Nodup ∧
        ∀ (host' : Host σ) (s' : σ), (k.bus.enumerate host' s').1.records =
          xs.mapIdx fun i x =>
            Bus.recordOf (UInt64.ofNat i) (i + 1) (.issuedAfter i) x.descriptor)) := by
  intro xs
  cases hfault : c.fault with
  | some e =>
    have hstart : start host clock c memory s = (.error e, s) := by
      unfold start
      rw [hfault]
    refine ⟨fun e' => ?_, nofun⟩
    rw [hstart]
    exact ⟨fun h => congrArg some (Except.error.inj h), fun h => congrArg _ (Option.some.inj h)⟩
  | none =>
    have hstart := start_eq_foldl host hfault clock memory s
    refine ⟨fun e => ?_, fun _ => ?_⟩
    · rw [hstart]
      exact ⟨nofun, nofun⟩
    · rw [hstart]
      dsimp only
      rw [hostDevices_fst]
      refine ⟨_, rfl, fun hlen => ?_⟩
      have hlen' : ([] : List Selected).length + xs.length ≤ 256 := by
        rw [List.length_nil]
        omega
      have hbus : (xs.foldl (attachSelected host c)
          (Bus.empty c.poolSize c.latency memory, (hostDevices host s).2)).1 =
          Bus.stocked c memory xs :=
        congrArg Prod.fst (foldl_attachSelected host c (hostDevices host s).2 xs hlen')
      rw [hbus]
      exact ⟨rfl, Bus.nodup_stocked (by omega),
        fun host' s' => Bus.records_enumerate_stocked host' s' hlen⟩

def portal (id : HostDeviceId) (productId : UInt16) : HostDevice where
  id
  descriptor := { vendorId := 9, productId }

/-- Settings with two filters, the first of them twice, and with an emulated device for each
product; the second is there only in case the host has none. -/
def mixed : Settings where
  passthrough := [⟨9, 2, ""⟩, ⟨9, 1, ""⟩, ⟨9, 2, ""⟩]
  emulated := [{ vendorId := 9, productId := 1 },
    { vendorId := 9, productId := 2, onlyIfAbsent := true },
    { vendorId := 9, productId := 3, onlyIfAbsent := true }]

/-- On a host with two devices of the second product and one of the third, the two are shown once
each, the emulated device of that product gives way, and that of the third does not. -/
theorem start_of_mixed :
    let host : Host Unit :=
      { Host.none with deviceList s := (.ok [portal 5 2, portal 6 3, portal 7 2], s) }
    ∃ k, (start host (fun _ => 0) mixed (.blank 8) ()).1 = .ok k ∧
      k.bus.attached =
        [⟨.ofIndex 1, ⟨0⟩⟩, ⟨.ofIndex 2, ⟨1⟩⟩, ⟨.ofIndex 3, ⟨2⟩⟩, ⟨.ofIndex 4, ⟨3⟩⟩] ∧
      (k.bus.enumerate host ()).1.records.map (·.descriptor.productId) = [2, 2, 1, 3] := by
  intro host
  obtain ⟨-, hok⟩ := start_of_settings host (fun _ => 0) mixed (.blank 8) ()
  obtain ⟨k, hk, hbus⟩ := hok (by decide)
  obtain ⟨hstocked, -, hrecords⟩ := hbus (by decide)
  refine ⟨k, hk, ?_, ?_⟩
  · rw [hstocked]
    rfl
  · rw [hrecords]
    rfl

end Controller

end VirtualUsb
