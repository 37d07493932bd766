import VirtualUsb.Settings.Device
import VirtualUsb.Proofs.Wire.Reading
import VirtualUsb.Proofs.Wire.Records

/-!
# Devices made from settings

The descriptors of an emulated device repeat in small fields what the tree around them says: how
long it is, how many interfaces and endpoints there are, which string is meant. The limits that
settings are held to leave room for each of these numbers in its field, so a device made from
accepted settings agrees with itself (`EmulatedSettings.device_of_accepted`).
-/

namespace VirtualUsb

/-! ## Trees -/

/-- Setting the number of configurations changes nothing else of a device. -/
theorem Emulated.countConfigurations_of_root {t : DescriptorTree} {a : DeviceDescriptor}
    (h : t.root = .ofLayout a) :
    countConfigurations t =
      t.setLayout { a with numConfigurations := UInt8.ofNat t.children.length } := by
  have hdecode : t.decode? DeviceDescriptor = some a := by
    unfold DescriptorTree.decode?
    rw [h]
    exact Descriptor.decode?_ofLayout a
  unfold countConfigurations
  rw [hdecode]

namespace DescriptorTree

theorem totalSizeAll_le {ts : List DescriptorTree} {n : Nat} (h : ∀ t ∈ ts, t.totalSize ≤ n) :
    totalSizeAll ts ≤ ts.length * n := by
  induction ts with
  | nil => exact Nat.zero_le _
  | cons t ts ih =>
    obtain ⟨ht, hts⟩ := List.forall_mem_cons.1 h
    rw [totalSizeAll, List.length_cons, Nat.succ_mul]
    have := ih hts
    omega

/-- The records of a row of trees, in pre-order, are those of its trees one after another. -/
theorem filterMap_preorderAll {β : Type} (f : Descriptor → Option β) (ts : List DescriptorTree) :
    (preorderAll ts).filterMap f = ts.flatMap fun t => t.preorder.filterMap f := by
  induction ts with
  | nil => rfl
  | cons t ts ih => rw [preorderAll, List.filterMap_append, ih, List.flatMap_cons]

end DescriptorTree

/-! ## Limits -/

namespace Settings

theorem deviceFault_of_firstFault {i : Nat} {l : List EmulatedSettings} (h : firstFault i l = none)
    {c : EmulatedSettings} (hc : c ∈ l) : deviceFault c = none := by
  induction l generalizing i with
  | nil => exact nomatch hc
  | cons d rest ih =>
    unfold firstFault at h
    split at h
    · exact nomatch h
    · rcases List.mem_cons.1 hc with rfl | hc
      · assumption
      · exact ih h hc

/-- What accepted settings are held to that bears on numbers in descriptors. -/
theorem limits_of_accepted {cfg : Settings} (h : cfg.fault = none) {c : EmulatedSettings}
    (hc : c ∈ cfg.emulated) :
    c.interfaces.length ≤ 32 ∧ ∀ i ∈ c.interfaces, i.endpoints.length ≤ 30 := by
  have hd : deviceFault c = none := by
    unfold fault at h
    split at h
    · exact nomatch h
    · exact deviceFault_of_firstFault h hc
  unfold deviceFault at hd
  split at hd
  · exact nomatch hd
  · split at hd
    · exact nomatch hd
    · rename_i hle
      refine ⟨Nat.not_lt.1 hle, fun i hi => ?_⟩
      have hi := List.findSome?_eq_none_iff.1 hd i hi
      unfold interfaceFault at hi
      split at hi
      · exact nomatch hi
      · exact Nat.not_lt.1 ‹_›

end Settings

/-! ## The configuration -/

namespace EmulatedSettings

open DescriptorTree (preorderAll)

/-- How an interface tree describes the settings of an interface with the given number: a HID
descriptor first, if a report length is configured, and then the endpoints. -/
structure DescribesInterface (i : InterfaceSettings) (number : Nat) (t : DescriptorTree) :
    Prop where
  header : ∃ d : InterfaceDescriptor, t.decode? InterfaceDescriptor = some d ∧
    d.number.toNat = number ∧ d.numEndpoints.toNat = i.endpoints.length ∧
    d.numEndpoints.toNat = (preorderAll t.children).countP (·.kind == DescriptorKind.endpoint)
  children : ∃ hids endpoints, t.children = hids ++ endpoints ∧
    hids.map (·.decode? HidDescriptor) = i.hidReportLength.toList.map (fun length =>
      some { hidVersion := 0x0111, countryCode := 0, numDescriptors := 1, reportKind := 0x22,
             reportLength := length }) ∧
    endpoints.map (·.decode? EndpointDescriptor) = i.endpoints.map (fun e =>
      some { address := e.address, attributes := e.attributes, maxPacketSize := e.maxPacketSize,
             interval := e.interval }) ∧
    ∀ u ∈ t.children, u.children = []

/-- How a configuration tree describes the settings of a device, and how it agrees with itself. -/
structure Describes (c : EmulatedSettings) (t : DescriptorTree) : Prop where
  header : ∃ d : ConfigurationDescriptor, t.decode? ConfigurationDescriptor = some d ∧
    d.totalLength.toNat = t.toBytes.length ∧ d.numInterfaces.toNat = c.interfaces.length ∧
    d.numInterfaces.toNat = t.children.length
  interfaces : ∀ (number : Nat) (i : InterfaceSettings), c.interfaces[number]? = some i →
    ∃ u, t.children[number]? = some u ∧ DescribesInterface i number u
  readBack : Configuration.parse t.toBytes = some t
  endpoints : ∀ address, t.findEndpoint address =
    ((c.interfaces.flatMap (·.endpoints)).find? (·.address == address)).map fun e =>
      { address := e.address, attributes := e.attributes, maxPacketSize := e.maxPacketSize,
        interval := e.interval }

section

variable {i : InterfaceSettings} {number : Nat}

theorem children_interface : (interface i number).children =
    i.hidReportLength.toList.map (.ofLayout ∘ hid) ++ i.endpoints.map (.ofLayout ∘ endpoint) := rfl

theorem preorderAll_map_ofLayout {α β : Type} [Layout β] (f : α → β) (l : List α) :
    preorderAll (l.map (.ofLayout ∘ f)) = l.map (Descriptor.ofLayout ∘ f) := by
  rw [← DescriptorTree.preorderAll_map_leaf (l.map (Descriptor.ofLayout ∘ f)), List.map_map]
  rfl

theorem preorderAll_interface : preorderAll (interface i number).children =
    i.hidReportLength.toList.map (Descriptor.ofLayout ∘ hid) ++
      i.endpoints.map (Descriptor.ofLayout ∘ endpoint) := by
  rw [children_interface, DescriptorTree.preorderAll_append, preorderAll_map_ofLayout,
    preorderAll_map_ofLayout]

theorem isFlatInterface_interface : (interface i number).IsFlatInterface := by
  refine ⟨rfl, fun u hu => ?_⟩
  rcases List.mem_append.1 hu with hu | hu
  · obtain ⟨length, -, rfl⟩ := List.mem_map.1 hu
    exact ⟨rfl, show DescriptorKind.hid ≠ DescriptorKind.interface by decide⟩
  · obtain ⟨e, -, rfl⟩ := List.mem_map.1 hu
    exact ⟨rfl, show DescriptorKind.endpoint ≠ DescriptorKind.interface by decide⟩

theorem filterMap_interface :
    (interface i number).preorder.filterMap (·.decode? EndpointDescriptor) =
      i.endpoints.map endpoint := by
  have hroot : (interface i number).root.decode? EndpointDescriptor = none :=
    Descriptor.decode?_of_kind_ne
      (show DescriptorKind.interface ≠ DescriptorKind.endpoint by decide)
  have hhid : (i.hidReportLength.toList.map (Descriptor.ofLayout ∘ hid)).filterMap
      (·.decode? EndpointDescriptor) = [] := by
    rw [List.filterMap_eq_nil_iff]
    intro d hd
    obtain ⟨length, -, rfl⟩ := List.mem_map.1 hd
    exact Descriptor.decode?_of_kind_ne
      (show DescriptorKind.hid ≠ DescriptorKind.endpoint by decide)
  rw [DescriptorTree.preorder_eq_cons, preorderAll_interface, List.filterMap_cons_none hroot,
    List.filterMap_append, hhid, List.nil_append, List.filterMap_map, ← List.filterMap_eq_map]
  simp only [Function.comp_def, Descriptor.decode?_ofLayout]

theorem countP_interface : (preorderAll (interface i number).children).countP
    (·.kind == DescriptorKind.endpoint) = i.endpoints.length := by
  rw [preorderAll_interface, List.countP_append, List.countP_map, List.countP_map]
  have hhid : i.hidReportLength.toList.countP
      ((·.kind == DescriptorKind.endpoint) ∘ Descriptor.ofLayout ∘ hid) = 0 :=
    List.countP_eq_zero.2 fun length _ =>
      show ¬ (DescriptorKind.hid == DescriptorKind.endpoint) = true by decide
  have hendpoint : i.endpoints.countP
      ((·.kind == DescriptorKind.endpoint) ∘ Descriptor.ofLayout ∘ endpoint) =
        i.endpoints.length :=
    List.countP_eq_length.2 fun e _ =>
      show (DescriptorKind.endpoint == DescriptorKind.endpoint) = true by decide
  omega

theorem totalSize_interface (h : i.endpoints.length ≤ 30) :
    (interface i number).totalSize ≤ 288 := by
  have hchild : ∀ u ∈ (interface i number).children, u.totalSize ≤ 9 := by
    intro u hu
    rcases List.mem_append.1 hu with hu | hu
    · obtain ⟨length, -, rfl⟩ := List.mem_map.1 hu
      exact Nat.le_of_ble_eq_true rfl
    · obtain ⟨e, -, rfl⟩ := List.mem_map.1 hu
      exact Nat.le_of_ble_eq_true rfl
  have hlen : (interface i number).children.length ≤ 31 := by
    rw [children_interface, List.length_append, List.length_map, List.length_map]
    have : i.hidReportLength.toList.length ≤ 1 := by
      cases i.hidReportLength <;> simp
    omega
  have hsize : (interface i number).totalSize =
      9 + DescriptorTree.totalSizeAll (interface i number).children := rfl
  have hall := DescriptorTree.totalSizeAll_le hchild
  omega

theorem describesInterface_interface (hnumber : number < 256) (h : i.endpoints.length ≤ 30) :
    DescribesInterface i number (interface i number) where
  header := by
    have hcount : (UInt8.ofNat i.endpoints.length).toNat = i.endpoints.length :=
      UInt8.toNat_ofNat_of_lt' (Nat.lt_of_le_of_lt h (by decide))
    refine ⟨_, Descriptor.decode?_ofLayout _, UInt8.toNat_ofNat_of_lt' hnumber, hcount, ?_⟩
    rw [countP_interface]
    exact hcount
  children := by
    refine ⟨_, _, rfl, ?_, ?_, fun u hu => (isFlatInterface_interface.2 u hu).1⟩
    · rw [List.map_map]
      exact List.map_congr_left fun length _ => Descriptor.decode?_ofLayout (hid length)
    · rw [List.map_map]
      exact List.map_congr_left fun e _ => Descriptor.decode?_ofLayout (endpoint e)

end

/-! ## The device -/

section

/-- Numbering the entries of a list does not matter to what is made of each of them alone. -/
theorem flatMap_mapIdx {α β γ : Type} {f : Nat → α → β} {g : β → List γ} {k : α → List γ}
    (l : List α) (h : ∀ n a, g (f n a) = k a) : (l.mapIdx f).flatMap g = l.flatMap k := by
  induction l generalizing f with
  | nil => rfl
  | cons a l ih =>
    rw [List.mapIdx_cons, List.flatMap_cons, List.flatMap_cons, h, ih fun n a => h (n + 1) a]

variable {c : EmulatedSettings}

/-- The descriptor of the one configuration, with its total length set right. -/
def header (c : EmulatedSettings) : ConfigurationDescriptor where
  totalLength := c.configuration.claimedLength
  numInterfaces := UInt8.ofNat c.interfaces.length
  value := 1
  attributes := if c.selfPowered then 0xC0 else 0x80
  maxPower := c.maxPower

/-- The one configuration as the device has it. -/
def finished (c : EmulatedSettings) : DescriptorTree :=
  .node (.ofLayout c.header) c.configuration.children

theorem descriptors_device {σ : Type} (location : Location) :
    (c.device location : Emulated σ).state.descriptors =
      .node (.ofLayout { c.deviceDescriptor with numConfigurations := 1 }) [c.finished] := by
  show Emulated.countConfigurations (.node (.ofLayout c.deviceDescriptor) [c.finished]) = _
  exact Emulated.countConfigurations_of_root rfl

theorem filterMap_finished : c.finished.preorder.filterMap (·.decode? EndpointDescriptor) =
    (c.interfaces.flatMap (·.endpoints)).map endpoint := by
  have hroot : c.finished.root.decode? EndpointDescriptor = none :=
    Descriptor.decode?_of_kind_ne
      (show DescriptorKind.configuration ≠ DescriptorKind.endpoint by decide)
  rw [DescriptorTree.preorder_eq_cons, List.filterMap_cons_none hroot,
    DescriptorTree.filterMap_preorderAll, List.map_flatMap]
  exact flatMap_mapIdx c.interfaces fun number i => filterMap_interface

theorem totalSize_configuration (hlen : c.interfaces.length ≤ 32)
    (hendpoints : ∀ i ∈ c.interfaces, i.endpoints.length ≤ 30) :
    c.configuration.totalSize ≤ 9225 := by
  have hchild : ∀ u ∈ c.configuration.children, u.totalSize ≤ 288 := by
    intro u hu
    obtain ⟨number, hlt, rfl⟩ := List.mem_mapIdx.1 hu
    exact totalSize_interface (hendpoints _ (List.getElem_mem hlt))
  have hsize : c.configuration.totalSize =
      9 + DescriptorTree.totalSizeAll c.configuration.children := rfl
  have hall := DescriptorTree.totalSizeAll_le hchild
  have hmap : c.configuration.children.length = c.interfaces.length := List.length_mapIdx
  omega

theorem describes_finished (hlen : c.interfaces.length ≤ 32)
    (hendpoints : ∀ i ∈ c.interfaces, i.endpoints.length ≤ 30) : c.Describes c.finished where
  header := by
    have hmap : c.finished.children.length = c.interfaces.length := List.length_mapIdx
    have hcount : c.header.numInterfaces.toNat = c.interfaces.length :=
      UInt8.toNat_ofNat_of_lt' (Nat.lt_of_le_of_lt hlen (by decide))
    refine ⟨c.header, Descriptor.decode?_ofLayout _, ?_, hcount, hcount.trans hmap.symm⟩
    have hsize : c.finished.totalSize = c.configuration.totalSize := rfl
    have hle := totalSize_configuration hlen hendpoints
    rw [DescriptorTree.length_toBytes, hsize]
    show (UInt16.ofNat (min c.configuration.totalSize 65535)).toNat = _
    rw [Nat.min_eq_left (by omega)]
    exact UInt16.toNat_ofNat_of_lt' (Nat.lt_of_le_of_lt hle (by decide))
  interfaces number i hi := by
    have hlt : number < c.interfaces.length := (List.getElem?_eq_some_iff.1 hi).1
    refine ⟨interface i number, ?_, describesInterface_interface (by omega)
      (hendpoints i (List.mem_of_getElem? hi))⟩
    show (c.interfaces.mapIdx fun number i => interface i number)[number]? = _
    rw [List.getElem?_mapIdx, hi]
    rfl
  readBack := by
    have hrow : DescriptorTree.CanonicalRow c.finished.children := by
      refine ⟨[], c.finished.children, rfl, nofun, fun u hu => ?_⟩
      obtain ⟨number, hlt, rfl⟩ := List.mem_mapIdx.1 hu
      exact isFlatInterface_interface
    rw [Configuration.parse_toBytes_of_configuration (n := c.finished) rfl,
      (Configuration.nest_preorderAll_eq_iff _).2 hrow]
    rfl
  endpoints address := by
    unfold DescriptorTree.findEndpoint
    rw [filterMap_finished, List.find?_map]
    rfl

end

end EmulatedSettings

/-! ## Strings -/

theorem StandardRequest.ofSetup_askDescriptor (kind index : UInt8) (length : UInt16) :
    ofSetup (askDescriptor kind index length) = some (.getDescriptor kind index) := by
  have hclass : ((128 : UInt8) >>> 5) &&& 3 = 0 := by decide
  have hrecipient : (128 : UInt8) &&& 31 = 0 := by decide
  simp [ofSetup, askDescriptor, getDescriptorCode, SetupPacket.direction,
    SetupPacket.requestClass, SetupPacket.recipient, SetupPacket.valueHigh, SetupPacket.valueLow,
    hclass, hrecipient]

namespace Emulated

variable {σ : Type} {d : Emulated σ}

/-- Whether a string index of a device leads to a text, and is zero just if there is none. -/
structure Names (d : Emulated σ) (index : UInt8) (text : Option String) : Prop where
  absent : index = 0 ↔ text = none
  answer : ∀ string, text = some string → ∀ setup data s,
    StandardRequest.ofSetup setup = some (.getDescriptor DescriptorKind.string index) →
    d.serve setup data s = (d.answered data (StringDescriptor.ofText string), s)

theorem serve_of_standard {setup : SetupPacket} {request : StandardRequest}
    (h : StandardRequest.ofSetup setup = some request) (data : Bytes) (s : σ) :
    d.serve setup data s = (d.serveStandard data request, s) := by
  unfold serve
  rw [h]

/-- Strings are answered by their places, counted from one. -/
theorem descriptorAnswer_string {index : UInt8} {string : String} (hindex : index ≠ 0)
    (hstring : d.strings[index.toNat - 1]? = some string) :
    d.descriptorAnswer DescriptorKind.string index = StringDescriptor.ofText string := by
  unfold descriptorAnswer
  rw [if_neg (by decide), if_neg (by decide), if_pos rfl, if_neg hindex, hstring]

theorem names_stringIndex (before after : List String) {text : Option String}
    (hstrings : d.strings = before ++ text.toList ++ after) (hlen : before.length < 255) :
    d.Names (EmulatedSettings.stringIndex before text) text := by
  have hnat : (UInt8.ofNat (before.length + 1)).toNat = before.length + 1 :=
    UInt8.toNat_ofNat_of_lt' (Nat.succ_lt_succ hlen)
  have hne : UInt8.ofNat (before.length + 1) ≠ 0 := by
    intro h
    rw [h] at hnat
    exact nomatch hnat
  cases text with
  | none => exact ⟨iff_of_true rfl rfl, nofun⟩
  | some string =>
    refine ⟨iff_of_false hne nofun, fun string' e setup data s hsetup => ?_⟩
    obtain rfl := Option.some.inj e
    rw [serve_of_standard hsetup]
    have hplace : d.strings[(UInt8.ofNat (before.length + 1)).toNat - 1]? = some string := by
      rw [hnat, Nat.add_sub_cancel, hstrings]
      simp
    exact congrArg (d.answered data ·, s) (descriptorAnswer_string hne hplace)

end Emulated

/-! ## Accepted settings -/

namespace EmulatedSettings

/-- **Devices made of accepted settings agree with themselves.** Such a device has one
configuration, and says so. The configuration says how long it is on the wire and how many
interfaces it has; the interfaces are numbered in order, and each says how many endpoints stand
below it. It is read back from the wire as it is, and an endpoint is found by its address as it
would be in the settings. The three string indices are zero just for strings that are absent, and
the device answers the others with these very strings. -/
theorem device_of_accepted {σ : Type} {cfg : Settings} (hok : cfg.fault = none)
    {c : EmulatedSettings} (hc : c ∈ cfg.emulated) (location : Location) :
    ∃ (d : DeviceDescriptor) (t : DescriptorTree),
      (c.device location : Emulated σ).state.descriptors.decode? DeviceDescriptor = some d ∧
      (c.device location : Emulated σ).state.descriptors.children = [t] ∧
      d.numConfigurations = 1 ∧ c.Describes t ∧
      (c.device location : Emulated σ).Names d.manufacturerIndex c.manufacturer ∧
      (c.device location : Emulated σ).Names d.productIndex c.product ∧
      (c.device location : Emulated σ).Names d.serialNumberIndex c.serialNumber := by
  obtain ⟨hlen, hendpoints⟩ := Settings.limits_of_accepted hok hc
  have hstrings : (c.device location : Emulated σ).strings =
      c.manufacturer.toList ++ c.product.toList ++ c.serialNumber.toList := rfl
  have hmanufacturer : c.manufacturer.toList.length ≤ 1 := Option.length_toList_le
  have hproduct : c.product.toList.length ≤ 1 := Option.length_toList_le
  refine ⟨{ c.deviceDescriptor with numConfigurations := 1 }, c.finished, ?_, ?_, rfl,
    describes_finished hlen hendpoints, ?_, ?_, ?_⟩
  · rw [descriptors_device]
    exact Descriptor.decode?_ofLayout _
  · rw [descriptors_device]
    rfl
  · refine Emulated.names_stringIndex [] (c.product.toList ++ c.serialNumber.toList) ?_ (by decide)
    rw [hstrings, List.nil_append, List.append_assoc]
  · exact Emulated.names_stringIndex _ c.serialNumber.toList hstrings (by omega)
  · refine Emulated.names_stringIndex _ [] ?_ ?_
    · rw [hstrings, List.append_nil]
    · rw [List.length_append]
      omega

/-- A toy with a serial number and one interface, which has a HID descriptor and two endpoints. -/
def toy : EmulatedSettings where
  serialNumber := some "7"
  interfaces := [{
    hidReportLength := some 29
    endpoints := [{}, { address := 1, attributes := 2, maxPacketSize := 512, interval := 7 }] }]

/-- The toy is accepted. Its configuration is read back as it is, its interface says how long the
report is, the second endpoint is found by its address, there is no product string, and the serial
number is answered by its index. -/
theorem device_of_accepted_toy :
    ({ emulated := [toy] } : Settings).fault = none ∧
      ∃ (d : DeviceDescriptor) (t : DescriptorTree),
        (toy.device default : Emulated Unit).state.descriptors.children = [t] ∧
        Configuration.parse t.toBytes = some t ∧
        (∃ u h, t.children[0]? = some u ∧ u.children.head? = some h ∧
          h.decode? HidDescriptor = some ⟨0x0111, 0, 1, 0x22, 29⟩) ∧
        t.findEndpoint 1 =
          some { address := 1, attributes := 2, maxPacketSize := 512, interval := 7 } ∧
        d.productIndex = 0 ∧ d.serialNumberIndex ≠ 0 ∧
        (toy.device default : Emulated Unit).serve
            (StandardRequest.askDescriptor DescriptorKind.string d.serialNumberIndex 4)
            [0, 0, 0, 0] () =
          (⟨some 4, [4, 3, 55, 0], toy.device default⟩, ()) := by
  have hok : ({ emulated := [toy] } : Settings).fault = none := by decide
  obtain ⟨d, t, -, ht, -, hdescribes, -, hproduct, hserial⟩ :=
    device_of_accepted (σ := Unit) hok List.mem_cons_self default
  obtain ⟨u, hu, hinterface⟩ := hdescribes.interfaces 0 _ rfl
  obtain ⟨_ | ⟨h, hids⟩, endpoints, hchildren, hhids, -, -⟩ := hinterface.children
  · exact nomatch hhids
  have hreport : ∃ u h, t.children[0]? = some u ∧ u.children.head? = some h ∧
      h.decode? HidDescriptor = some ⟨0x0111, 0, 1, 0x22, 29⟩ :=
    ⟨u, h, hu, hchildren ▸ rfl, (List.cons.inj hhids).1⟩
  refine ⟨hok, d, t, ht, hdescribes.readBack, hreport, (hdescribes.endpoints 1).trans rfl,
    hproduct.absent.2 rfl, fun h => (nomatch hserial.absent.1 h), ?_⟩
  rw [hserial.answer "7" rfl _ _ _ (StandardRequest.ofSetup_askDescriptor _ _ _)]
  rfl

end EmulatedSettings

end VirtualUsb
