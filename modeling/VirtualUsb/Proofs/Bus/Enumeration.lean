import VirtualUsb.Proofs.Bus.Counters
import VirtualUsb.Proofs.Bus.Opening
import VirtualUsb.Proofs.Wire.Records

/-!
# Enumerations

An enumeration makes up one record for each device on the bus, in order, until bus numbers run out,
and changes nothing but the counter of sessions and what devices remember of their descriptors
(`Bus.Enumerates`). Over a run, the sessions of all enumerations are numbered in turn, also of those
that a call makes on its way to a device (`Scene.enumeration_of_numbered`).
-/

namespace VirtualUsb

/-! ## What a device says of itself -/

/-- The speeds that the packet size and the version of a device stand for. A packet size of 9 means
one of the super speeds, and otherwise any size will do from version 2 on. -/
inductive Speed.Implied (packetSize version : Nat) : Speed → Prop
  | superPlus (hsize : packetSize = 9) (hversion : 0x0310 ≤ version) :
    Implied packetSize version .superPlus
  | super (hsize : packetSize = 9) (hversion : version < 0x0310) : Implied packetSize version .super
  | high (hsize : packetSize ≠ 9) (hversion : 0x0200 ≤ version) : Implied packetSize version .high
  | full (hsize : packetSize ≠ 9 ∧ 8 < packetSize) (hversion : version < 0x0200) :
    Implied packetSize version .full
  | low (hsize : packetSize ≤ 8) (hversion : version < 0x0200) : Implied packetSize version .low

theorem Speed.implied_infer (packetSize : UInt8) (version : UInt16) :
    Implied packetSize.toNat version.toNat (infer packetSize version) := by
  have hnine : packetSize = 9 ↔ packetSize.toNat = 9 := UInt8.toNat_inj.symm
  have height : 8 < packetSize ↔ 8 < packetSize.toNat := UInt8.lt_iff_toNat_lt
  have htwo : 0x0200 ≤ version ↔ 0x0200 ≤ version.toNat := UInt16.le_iff_toNat_le
  have hthree : 0x0310 ≤ version ↔ 0x0310 ≤ version.toNat := UInt16.le_iff_toNat_le
  unfold infer
  simp only [hnine, height, htwo, hthree]
  split
  · split
    · exact .superPlus ‹_› ‹_›
    · exact .super ‹_› (by omega)
  · split
    · exact .high ‹_› ‹_›
    · split
      · exact .full ⟨‹_›, ‹_›⟩ (by omega)
      · exact .low (by omega) (by omega)

/-- Whether a record is what some bytes say, each field at its place. -/
structure DeviceDescriptor.StandsIn (d : DeviceDescriptor) (payload : Bytes) : Prop where
  usbVersion : d.usbVersion.toNat = (payload.getD 0 0).toNat + 256 * (payload.getD 1 0).toNat
  deviceClass : d.deviceClass = payload.getD 2 0
  subclass : d.subclass = payload.getD 3 0
  protocol : d.protocol = payload.getD 4 0
  maxPacketSize : d.maxPacketSize = payload.getD 5 0
  vendorId : d.vendorId.toNat = (payload.getD 6 0).toNat + 256 * (payload.getD 7 0).toNat
  productId : d.productId.toNat = (payload.getD 8 0).toNat + 256 * (payload.getD 9 0).toNat
  deviceVersion : d.deviceVersion.toNat = (payload.getD 10 0).toNat + 256 * (payload.getD 11 0).toNat
  manufacturerIndex : d.manufacturerIndex = payload.getD 12 0
  productIndex : d.productIndex = payload.getD 13 0
  serialNumberIndex : d.serialNumberIndex = payload.getD 14 0
  numConfigurations : d.numConfigurations = payload.getD 15 0

/-- What the topmost descriptor says of a device: nothing, if it is of another kind or too short. -/
inductive Descriptor.Tells (root : Descriptor) : DeviceDescriptor → Prop
  | record {d : DeviceDescriptor} (hkind : root.kind = 0x01) (hlength : 16 ≤ root.payload.length)
      (hd : d.StandsIn root.payload) : Tells root d
  | nothing (h : root.kind ≠ 0x01 ∨ root.payload.length < 16) : Tells root {}

theorem Descriptor.Tells.standsIn {root : Descriptor} {d : DeviceDescriptor} (h : root.Tells d)
    (hkind : root.kind = 0x01) (hlength : 16 ≤ root.payload.length) : d.StandsIn root.payload := by
  cases h with
  | record _ _ hd => exact hd
  | nothing h => exact h.elim (absurd hkind) fun hlt => absurd hlength (Nat.not_le.2 hlt)

theorem Bytes.toNat_low_add_high (w : UInt16) : w.toNat = (low w).toNat + 256 * (high w).toNat := by
  rw [toNat_low, toNat_high]
  omega

theorem DeviceDescriptor.standsIn_encode (d : DeviceDescriptor) (rest : Bytes) :
    d.StandsIn (Layout.encode d ++ rest) :=
  ⟨Bytes.toNat_low_add_high _, rfl, rfl, rfl, rfl, Bytes.toNat_low_add_high _,
    Bytes.toNat_low_add_high _, Bytes.toNat_low_add_high _, rfl, rfl, rfl, rfl⟩

theorem DeviceState.tells_deviceDescriptor (d : DeviceState) :
    d.descriptors.root.Tells d.deviceDescriptor := by
  unfold deviceDescriptor DescriptorTree.decode? Descriptor.decode?
  by_cases hkind : d.descriptors.root.kind = DescriptorKind.device
  · rw [show Layout.kind DeviceDescriptor = DescriptorKind.device from rfl, if_pos hkind]
    rcases FixedLayout.decode_cases (α := DeviceDescriptor) d.descriptors.root.payload with
      ⟨hlt, hnone⟩ | ⟨a, rest, hpayload⟩
    · rw [hnone]
      exact .nothing (.inr hlt)
    · have hlength : 16 ≤ d.descriptors.root.payload.length := by
        rw [hpayload, List.length_append]
        exact Nat.le_add_right 16 _
      have hstands : a.StandsIn d.descriptors.root.payload := hpayload ▸ a.standsIn_encode rest
      rw [hpayload, FixedLayout.decode_append]
      exact .record hkind hlength hstands
  · rw [show Layout.kind DeviceDescriptor = DescriptorKind.device from rfl, if_neg hkind]
    exact .nothing (.inl hkind)

theorem Device.deviceDescriptor_readDescriptors {σ : Type} (host : Host σ) (s : σ) (d : Device σ) :
    (d.readDescriptors host s).1.state.deviceDescriptor = d.state.deviceDescriptor := by
  cases d with
  | passthrough p =>
    show (p.readDescriptors host s).1.state.deviceDescriptor = p.state.deviceDescriptor
    unfold Passthrough.readDescriptors
    repeat' split
    all_goals rfl
  | emulated | external => rfl

namespace Bus

variable {σ : Type} (host : Host σ) {b : Bus σ} (s : σ)

def descriptorOf (b : Bus σ) (key : DeviceKey) : DeviceDescriptor :=
  ((b.roster.get? key).map (·.state.deviceDescriptor)).getD {}

theorem describeDevice_eq (key : DeviceKey) :
    (b.describeDevice host key s).1 = b.descriptorOf key ∧
      (b.describeDevice host key s).2.1.descriptorOf = b.descriptorOf ∧
      (b.describeDevice host key s).2.1.nextSession = b.nextSession := by
  unfold describeDevice
  split
  · rename_i hd
    exact ⟨by rw [descriptorOf, hd]; rfl, rfl, rfl⟩
  · rename_i d hd
    have hsame := d.deviceDescriptor_readDescriptors host s
    refine ⟨?_, funext fun k => ?_, rfl⟩
    · rw [descriptorOf, hd]
      exact hsame
    · unfold descriptorOf withDevice
      dsimp only
      rw [Roster.get?_set_of_get? hd]
      split
      · rename_i hk
        rw [← hk, hd]
        exact congrArg (Option.getD · _) (congrArg some hsame)
      · rfl

theorem records_enumerateFrom (n : Nat) (l : List Attachment) :
    (enumerateFrom host n l b s).1 = l.mapIdx fun i a =>
      recordOf (b.nextSession + UInt64.ofNat i) (n + i) a.location (b.descriptorOf a.key) := by
  induction l generalizing n b s with
  | nil => rfl
  | cons a l ih =>
    obtain ⟨hrecord, hrest, hnext⟩ :=
      describeDevice_eq host (b := { b with nextSession := b.nextSession + 1 }) s a.key
    rw [enumerateFrom, List.mapIdx_cons]
    dsimp only
    rw [ih, hrecord, hrest, hnext]
    refine congrArg₂ _ ?_ (congrArg (List.mapIdx · l) (funext fun i => funext fun a => ?_))
    · rw [show UInt64.ofNat 0 = 0 from rfl, UInt64.add_zero]
      rfl
    · rw [UInt64.add_assoc, UInt64.add_comm 1, Nat.add_assoc, Nat.add_comm 1, UInt64.ofNat_add]
      rfl

/-- Whether a record is the one of a device, at a place in the order of the bus and in a session. -/
structure Records (a : Attachment) (d : Device σ) (place session : Nat) (r : DeviceRecord) :
    Prop where
  location : r.location = a.location
  descriptor : d.state.descriptors.root.Tells r.descriptor
  speed : Speed.Implied r.descriptor.maxPacketSize.toNat r.descriptor.usbVersion.toNat r.speed
  busNumber : r.busNumber.toNat = place
  sessionId : r.sessionId = UInt64.ofNat session
  address : r.address.toNat = r.sessionId.toNat % 256
  port : r.port.toNat = r.sessionId.toNat % 256

/-- What an enumeration makes of a bus, if some sessions were numbered before, and what it leaves as
it was. -/
structure Enumerates (b : Bus σ) (sessions : Nat) (e : Enumeration) (b' : Bus σ) : Prop where
  count : e.records.length = min b.attached.length 255
  record : ∀ k r, e.records[k]? = some r → ∃ a d, b.attached[k]? = some a ∧
    b.roster.get? a.key = some d ∧ Records a d (k + 1) (sessions + k) r
  locations : (e.records.map (·.location)).Nodup
  attached : b'.attached = b.attached
  opened : b'.opened = b.opened
  pool : b'.pool = b.pool
  agenda : b'.agenda = b.agenda
  memory : b'.memory = b.memory

theorem records_enumerate : (b.enumerate host s).1.records =
    (b.attached.take maxRecords).mapIdx fun i a =>
      recordOf (b.nextSession + UInt64.ofNat i) (1 + i) a.location (b.descriptorOf a.key) :=
  records_enumerateFrom host s 1 _

theorem length_records : (b.enumerate host s).1.records.length = b.recordCount := by
  rw [records_enumerate, List.length_mapIdx, List.length_take, Nat.min_comm, recordCount]

/-- The sessions of an enumeration follow on the ones before. -/
theorem sessions_enumerate : (b.enumerate host s).1.records.map (·.sessionId) =
    (List.range b.recordCount).map fun i => b.nextSession + UInt64.ofNat i := by
  refine List.ext_getElem (by simp [length_records]) fun i _ _ => ?_
  simp [records_enumerate, recordOf]

theorem locations_enumerate : (b.enumerate host s).1.records.map (·.location) =
    (b.attached.take maxRecords).map (·.location) := by
  rw [records_enumerate]
  refine List.ext_getElem (by simp) fun i _ _ => ?_
  simp [recordOf]

theorem exists_records (h : b.lineup.Enrolled) {sessions k : Nat}
    (hsession : b.nextSession = UInt64.ofNat sessions) {r : DeviceRecord}
    (hr : (b.enumerate host s).1.records[k]? = some r) : ∃ a d, b.attached[k]? = some a ∧
      b.roster.get? a.key = some d ∧ Records a d (k + 1) (sessions + k) r := by
  rw [records_enumerate, List.getElem?_mapIdx] at hr
  obtain ⟨a, ha, rfl⟩ := Option.map_eq_some_iff.1 hr
  obtain ⟨hk, ha⟩ : k < maxRecords ∧ b.attached[k]? = some a := by
    rw [List.getElem?_take] at ha
    split at ha
    · exact ⟨‹_›, ha⟩
    · exact nomatch ha
  obtain ⟨d, hd⟩ := exists_device_of_enrolled h (List.mem_of_getElem? ha)
  have hdescriptor : b.descriptorOf a.key = d.state.deviceDescriptor := by
    rw [descriptorOf, hd]
    rfl
  refine ⟨a, d, ha, hd, rfl, ?_, Speed.implied_infer .., ?_, ?_, UInt64.toNat_toUInt8 _,
    UInt64.toNat_toUInt8 _⟩
  · show d.state.descriptors.root.Tells (b.descriptorOf a.key)
    rw [hdescriptor]
    exact d.state.tells_deviceDescriptor
  · show (UInt8.ofNat (1 + k)).toNat = k + 1
    rw [UInt8.toNat_ofNat', Nat.add_comm]
    exact Nat.mod_eq_of_lt (Nat.succ_lt_succ hk)
  · show b.nextSession + UInt64.ofNat k = _
    rw [hsession, UInt64.ofNat_add]

theorem enumerates_enumerate (h : b.lineup.Enrolled) {sessions : Nat}
    (hsession : b.nextSession = UInt64.ofNat sessions) :
    b.Enumerates sessions (b.enumerate host s).1 (b.enumerate host s).2.1 where
  count := length_records host s
  record _ _ hr := exists_records host s h hsession hr
  locations := by
    rw [locations_enumerate]
    exact h.attached.sublist ((List.take_sublist ..).map _)
  attached := congrArg Lineup.attached (recast_enumerate host b s).lineup
  opened := congrArg Lineup.opened (recast_enumerate host b s).lineup
  pool := congrArg Ledger.pool (recast_enumerate host b s).ledger
  agenda := congrArg Ledger.agenda (recast_enumerate host b s).ledger
  memory := congrArg Ledger.memory (recast_enumerate host b s).ledger

end Bus

namespace Scene

variable {σ : Type}

/-- The sessions that a call numbers. -/
def sessionsOf (host : Host σ) (c : Scene σ) : Operation σ → List UInt64
  | .enumerate | .openByIds .. => (c.bus.enumerate host c.world).1.records.map (·.sessionId)
  | _ => []

/-- The scenes that calls lead to, with the sessions numbered on the way. -/
inductive Numbered (host : Host σ) (allowed : Scene σ → Operation σ → Prop) (first : Scene σ) :
    Scene σ → List UInt64 → Prop
  | first : Numbered host allowed first first []
  | after {c : Scene σ} {sessions : List UInt64} (op : Operation σ) :
    Numbered host allowed first c sessions → allowed c op →
      Numbered host allowed first (c.after host op) (sessions ++ sessionsOf host c op)

variable {host : Host σ} {allowed : Scene σ → Operation σ → Prop} {first c : Scene σ}

theorem Numbered.reached {sessions : List UInt64} (h : Numbered host allowed first c sessions) :
    Reached host allowed first c := by
  induction h with
  | first => exact .first
  | after op _ ha ih => exact ih.after op ha

theorem Reached.exists_numbered (h : Reached host allowed first c) :
    ∃ sessions, Numbered host allowed first c sessions := by
  induction h with
  | first => exact ⟨[], .first⟩
  | after op _ ha ih =>
    obtain ⟨sessions, hc⟩ := ih
    exact ⟨_, hc.after op ha⟩

variable (host c) in
/-- The sessions that a call numbers follow on the ones before. -/
theorem exists_sessionsOf (op : Operation σ) :
    ∃ m, sessionsOf host c op = (List.range m).map (fun i => c.bus.nextSession + UInt64.ofNat i) ∧
      (c.after host op).bus.nextSession = c.bus.nextSession + UInt64.ofNat m := by
  have hcounter : (c.after host op).bus.nextSession = (c.bus.countersAfter op).2 :=
    congrArg Prod.snd (Bus.counters_call host c.bus c.world op)
  rw [hcounter]
  cases op with
  | enumerate | openByIds => exact ⟨_, Bus.sessions_enumerate host c.world, rfl⟩
  | _ => exact ⟨0, rfl, (UInt64.add_zero _).symm⟩

/-- The sessions of a run are numbered in turn, and the counter is at the next. -/
theorem Numbered.sessions_eq {sessions : List UInt64} (h : Numbered host allowed first c sessions)
    (h0 : first.bus.nextSession = 0) :
    c.bus.nextSession = UInt64.ofNat sessions.length ∧
      sessions = (List.range sessions.length).map UInt64.ofNat := by
  induction h with
  | first => exact ⟨h0, rfl⟩
  | @after c sessions op _ _ ih =>
    obtain ⟨hnext, hsessions⟩ := ih
    obtain ⟨m, hm, hafter⟩ := exists_sessionsOf host c op
    have hlength : (sessions ++ sessionsOf host c op).length = sessions.length + m := by
      rw [List.length_append, hm, List.length_map, List.length_range]
    rw [hlength, hafter, hnext, UInt64.ofNat_add]
    refine ⟨rfl, ?_⟩
    rw [List.range_add, List.map_append, ← hsessions, hm, hnext, List.map_map]
    refine congrArg _ (List.map_congr_left fun i _ => ?_)
    exact (UInt64.ofNat_add _ _).symm

/-- Sessions that are numbered in turn are told apart by their numbers, as long as these do not come
round. -/
theorem toNat_sessions {n : Nat} (h : n < UInt64.size) :
    ((List.range n).map UInt64.ofNat).map (·.toNat) = List.range n := by
  rw [List.map_map]
  refine (List.map_congr_left fun i hi => ?_).trans (List.map_id _)
  exact UInt64.toNat_ofNat_of_lt' ((List.mem_range.1 hi).trans h)

/-- **Enumerations follow the devices on the bus.** Whatever calls were made of a new bus, as long
as devices are attached once more only through handles that are held, an enumeration has one record
for each device on the bus, at most 255, in the order of the bus: with the location of the device,
its descriptor and its speed, numbered from one, and with its session for address and port. It
changes neither list, no transfer and no memory. The sessions of all enumerations, also of those on
the way to a device, are numbered in turn from zero, and none comes twice before the numbers come
round. -/
theorem enumeration_of_numbered {n : Nat} {latency : UInt64} {memory : Memory} {world : σ}
    {sessions : List UInt64} (h : Numbered host (fun c op => c.bus.AttachesHeld op)
      ⟨Bus.empty n latency memory, world, []⟩ c sessions) :
    c.bus.Enumerates sessions.length (c.bus.enumerate host c.world).1
      (c.bus.enumerate host c.world).2.1 ∧
    (sessions.length < UInt64.size →
      sessions.map (·.toNat) = List.range sessions.length ∧ sessions.Nodup) := by
  have henrolled := h.reached.enrolled (fun _ _ => id) (Bus.settled_empty n latency memory)
    (Bus.enrolled_empty n latency memory)
  obtain ⟨hnext, hsessions⟩ := h.sessions_eq rfl
  refine ⟨Bus.enumerates_enumerate host c.world henrolled hnext, fun hlt => ?_⟩
  have hnumbers : sessions.map (·.toNat) = List.range sessions.length := by
    rw [hsessions, List.length_map, List.length_range]
    exact toNat_sessions hlt
  exact ⟨hnumbers, List.Nodup.of_map _ (hnumbers ▸ List.nodup_range)⟩

/-- A device of the host that says what it is. -/
def figure : Passthrough :=
  (Passthrough.attach .obliging
    ⟨default, { usbVersion := 0x0110, maxPacketSize := 64, vendorId := 0x1430 }, 0, 0⟩
    (.ofIndex 2) 0 ()).1

/-- A bus to which a device came between two enumerations, the second of them on the way to it. -/
def joined : Scene Unit :=
  (((blank.after .obliging (.attach (.passthrough (standing 1)))).after .obliging
    .enumerate).after .obliging (.attach (.passthrough figure))).after .obliging
      (.openByIds 0x1430 0)

/-- The device that came last is the second record of the next enumeration, with the vendor and the
speed that its descriptor tells. -/
theorem enumeration_of_joined :
    Numbered .obliging (fun c op => c.bus.AttachesHeld op) blank joined [0, 1, 2] ∧
      [0, 1, 2].map UInt64.toNat = List.range 3 ∧ ∃ r,
        (joined.bus.enumerate .obliging ()).1.records[1]? = some r ∧ r.location = .ofIndex 2 ∧
          r.descriptor.vendorId.toNat = 0x1430 ∧ r.speed = .full ∧
          r.busNumber.toNat = 2 ∧ r.sessionId = 4 ∧ r.address.toNat = 4 := by
  have h : Numbered .obliging (fun c op => c.bus.AttachesHeld op) blank joined [0, 1, 2] :=
    (((Numbered.first.after _ trivial).after _ trivial).after _ trivial).after _ trivial
  obtain ⟨henumerates, hsessions⟩ := enumeration_of_numbered h
  obtain ⟨r, hr⟩ : ∃ r, (joined.bus.enumerate .obliging ()).1.records[1]? = some r := ⟨_, rfl⟩
  obtain ⟨a, d, ha, hd, hrecords⟩ := henumerates.record 1 r hr
  obtain rfl := Option.some.inj ha
  obtain rfl := Option.some.inj hd
  have hstands : r.descriptor.StandsIn figure.state.descriptors.root.payload :=
    hrecords.descriptor.standsIn rfl (by decide)
  have hsize : r.descriptor.maxPacketSize.toNat = 64 := congrArg UInt8.toNat hstands.maxPacketSize
  have hversion : r.descriptor.usbVersion.toNat = 0x0110 := hstands.usbVersion
  have hspeed : r.speed = .full := by
    have himplied := hrecords.speed
    rw [hsize, hversion] at himplied
    generalize r.speed = speed at himplied
    cases himplied with
    | full => rfl
    | _ => omega
  refine ⟨h, (hsessions (by decide)).1, r, hr, hrecords.location, hstands.vendorId, hspeed,
    hrecords.busNumber, hrecords.sessionId, ?_⟩
  rw [hrecords.address, hrecords.sessionId]
  rfl

end Scene

end VirtualUsb
