import VirtualUsb.Settings.Codec
import VirtualUsb.Proofs.Json.Omission
import VirtualUsb.Proofs.Json.Reading

/-!
# Settings in which members are left out

A text of settings need not have every member. Each type of settings has a `without`, which puts the
defaults in place of what is left out, at any depth. Settings that are written and of which some
members are then left out are read as just these (`Settings.ofText_of_omission`); there is one lemma
to each type, from the endpoints up.
-/

namespace VirtualUsb

open Json

/-! ## Defaults for what is left out -/

/-- A filter without some members. Only the name has a default. -/
def PassthroughFilter.without (o : Omission) (f : PassthroughFilter) : PassthroughFilter :=
  { f with name := o.pick "name" "" f.name }

/-- An endpoint with defaults for some members. -/
def EndpointSettings.without (o : Omission) (e : EndpointSettings) : EndpointSettings where
  address := o.pick "address" 0x81 e.address
  attributes := o.pick "attributes" 0x03 e.attributes
  maxPacketSize := o.pick "max_packet_size" 64 e.maxPacketSize
  interval := o.pick "interval" 1 e.interval

/-- An interface with defaults for some members, its own and those of its endpoints. -/
def InterfaceSettings.without (o : Omission) (i : InterfaceSettings) : InterfaceSettings where
  interfaceClass := o.pick "interface_class" 0 i.interfaceClass
  subclass := o.pick "interface_subclass" 0 i.subclass
  protocol := o.pick "interface_protocol" 0 i.protocol
  hidReportLength := o.pick "hid_report_descriptor_length" none i.hidReportLength
  endpoints := o.pick "endpoints" [] (o.items "endpoints" EndpointSettings.without i.endpoints)

/-- An emulated device with defaults for some members, its own and those of its interfaces. -/
def EmulatedSettings.without (o : Omission) (e : EmulatedSettings) : EmulatedSettings where
  name := o.pick "name" "" e.name
  vendorId := o.pick "vendor_id" 0 e.vendorId
  productId := o.pick "product_id" 0 e.productId
  usbVersion := o.pick "bcd_usb" 0x0200 e.usbVersion
  deviceVersion := o.pick "bcd_device" 0x0100 e.deviceVersion
  deviceClass := o.pick "device_class" 0 e.deviceClass
  subclass := o.pick "device_subclass" 0 e.subclass
  protocol := o.pick "device_protocol" 0 e.protocol
  maxPacketSize := o.pick "max_packet_size0" 64 e.maxPacketSize
  manufacturer := o.pick "manufacturer" none e.manufacturer
  product := o.pick "product" none e.product
  serialNumber := o.pick "serial_number" none e.serialNumber
  selfPowered := o.pick "self_powered" false e.selfPowered
  maxPower := o.pick "max_power" 50 e.maxPower
  interfaces := o.pick "interfaces" [] (o.items "interfaces" InterfaceSettings.without e.interfaces)
  onlyIfAbsent := o.pick "only_if_absent" false e.onlyIfAbsent

/-- Settings with defaults for some members, their own and those of all that is in them. By default
three portals are shown. -/
def Settings.without (o : Omission) (c : Settings) : Settings where
  poolSize := o.pick "transfer_pool_size" 68 c.poolSize
  latency := o.pick "fake_transfer_latency_us" 100 c.latency
  readTimeout := o.pick "descriptor_read_timeout_ms" 0 c.readTimeout
  passthrough := o.pick "passthrough"
    [⟨0x1430, 0x0150, "Skylanders Portal"⟩, ⟨0x0E6F, 0x0129, "Disney Infinity Base"⟩,
      ⟨0x0E6F, 0x0241, "Lego Dimensions Portal"⟩]
    (o.items "passthrough" PassthroughFilter.without c.passthrough)
  emulated := o.pick "emulated" [] (o.items "emulated" EmulatedSettings.without c.emulated)

/-- Whether only members with a default are left out of settings: all but vendor and product of a
filter have one. -/
def Settings.Omittable (o : Omission) : Prop :=
  ∀ i, o [.key "passthrough", .index i, .key "vendor_id"] = false ∧
    o [.key "passthrough", .index i, .key "product_id"] = false

/-! ### Nothing left out -/

theorem PassthroughFilter.without_nothing (f : PassthroughFilter) : f.without .nothing = f := rfl

theorem EndpointSettings.without_nothing (e : EndpointSettings) : e.without .nothing = e := rfl

theorem InterfaceSettings.without_nothing (i : InterfaceSettings) : i.without .nothing = i := by
  unfold without
  simp only [Omission.pick_nothing, Omission.items_nothing EndpointSettings.without_nothing]

theorem EmulatedSettings.without_nothing (e : EmulatedSettings) : e.without .nothing = e := by
  unfold without
  simp only [Omission.pick_nothing, Omission.items_nothing InterfaceSettings.without_nothing]

theorem Settings.without_nothing (c : Settings) : c.without .nothing = c := by
  unfold without
  simp only [Omission.pick_nothing, Omission.items_nothing PassthroughFilter.without_nothing,
    Omission.items_nothing EmulatedSettings.without_nothing]

/-! ## Reading what is left -/

instance : Writable PassthroughFilter 1 where
  plain _ := .record (by simp) (by simp [Writable.plain])

instance : Writable EndpointSettings 1 where
  plain _ := .record (by simp) (by simp [Writable.plain])

instance : Writable InterfaceSettings 3 where
  plain _ := .record (by simp) (by simp [Writable.plain_of_le])

instance : Writable EmulatedSettings 5 where
  plain _ := .record (by simp) (by simp [Writable.plain_of_le])

/-- Settings are plain as long as the size of the pool has 64 bits. -/
theorem Settings.plain {c : Settings} (hsize : c.poolSize < UInt64.size) : (toJson c).Plain 7 := by
  have hpool : (toJson c.poolSize).Plain 6 := .natural hsize
  exact .record (by simp) (by simp [Writable.plain_of_le, hpool])

section

variable {lib : Library} (hlib : lib.Faithful) (o : Omission)

include hlib

theorem PassthroughFilter.restores (f : PassthroughFilter) (hvendor : o.drops "vendor_id" = false)
    (hproduct : o.drops "product_id" = false) : Restores lib o f (f.without o) := by
  refine (fields_without_bind hlib _ (by rfl) (by decide)).trans ?_
  simp only [List.map, required_field (.scalar _ hlib _) hvendor,
    required_field (.scalar _ hlib _) hproduct, optional_scalar hlib]
  rfl

theorem EndpointSettings.restores (e : EndpointSettings) : Restores lib o e (e.without o) := by
  refine (fields_without_bind hlib _ (by rfl) (by decide)).trans ?_
  simp only [List.map, optional_scalar hlib]
  rfl

theorem InterfaceSettings.restores (i : InterfaceSettings) : Restores lib o i (i.without o) := by
  refine (fields_without_bind hlib _ (by rfl) (by decide)).trans ?_
  have hendpoints := optional_list hlib (o := o) "endpoints" [] i.endpoints
    fun _ e => e.restores hlib _
  simp only [List.map, optional_scalar hlib, optional_option hlib, hendpoints]
  rfl

theorem EmulatedSettings.restores (e : EmulatedSettings) : Restores lib o e (e.without o) := by
  refine (fields_without_bind hlib _ (by rfl) (by decide)).trans ?_
  have hinterfaces := optional_list hlib (o := o) "interfaces" [] e.interfaces
    fun _ i => i.restores hlib _
  simp only [List.map, optional_scalar hlib, optional_option hlib, hinterfaces]
  rfl

theorem Settings.restores {c : Settings} (hsize : c.poolSize < UInt64.size) (ho : Omittable o) :
    Restores lib o c (c.without o) := by
  refine (fields_without_bind hlib _ (by rfl) (by decide)).trans ?_
  have hsize := optional_field (.nat (o.under (.key "transfer_pool_size")) hlib hsize)
  have hfilters := optional_list hlib (o := o) "passthrough" PassthroughFilter.portals c.passthrough
    fun i f => f.restores hlib _ (ho i).1 (ho i).2
  have hemulated := optional_list hlib (o := o) "emulated" [] c.emulated
    fun _ e => e.restores hlib _
  simp only [List.map, hsize, optional_scalar hlib, hfilters, hemulated]
  rfl

end

namespace Settings

variable {lib : Library} (hlib : lib.Faithful) {c : Settings} {o : Omission}

include hlib

theorem read_write_without (hsize : c.poolSize < UInt64.size) :
    lib.read (lib.write ((toJson c).without o)) = some ((toJson c).without o) :=
  hlib.read_write (((plain hsize).without o).mono (by decide))

/-- Any text of what is left is read the same, however it is laid out. -/
theorem ofText_of_read (hsize : c.poolSize < UInt64.size) (ho : Omittable o) {text : String}
    (hread : lib.read text = some ((toJson c).without o)) :
    ofText lib text = match (c.without o).fault with
      | none => .ok (c.without o)
      | some e => .error e := by
  have hc : Coded.ofJson? lib ((toJson c).without o) = some (c.without o) :=
    restores hlib o hsize ho
  unfold ofText ofJson
  cases hfault : (c.without o).fault with
  | none => simp only [hread, hc, hfault]
  | some e => simp only [hread, hc, hfault]

theorem ofText_write (hsize : c.poolSize < UInt64.size) (hfault : c.fault = none) :
    ofText lib (lib.write (toJson c)) = .ok c := by
  have hread : lib.read (lib.write (toJson c)) = some ((toJson c).without .nothing) := by
    rw [(plain hsize).without_nothing]
    exact hlib.read_write ((plain hsize).mono (by decide))
  rw [ofText_of_read hlib hsize (fun _ => ⟨rfl, rfl⟩) hread, c.without_nothing, hfault]

/-- **Settings are read back, with defaults for what is left out.** Take any faithful JSON library.
Whatever settings are written, and whatever is left out that has a default, in a device, an
interface, an endpoint or a filter as well as at the top: what is left has a text that is read as
such. Any such text gives the settings with exactly these fields at their defaults, and is accepted
if there is nothing wrong with those; otherwise it is refused for what is wrong with them. Settings
that are all right are read back as they were if nothing is left out. -/
theorem ofText_of_omission (hsize : c.poolSize < UInt64.size) (ho : Omittable o) :
    let left := (toJson c).without o
    lib.read (lib.write left) = some left ∧
      (∀ text, lib.read text = some left → Coded.ofJson? lib left = some (c.without o) ∧
        (ofText lib text = .ok (c.without o) ↔ (c.without o).fault = none) ∧
        ∀ e, (c.without o).fault = some e → ofText lib text = .error e) ∧
      (c.fault = none → ofText lib (lib.write (toJson c)) = .ok c) := by
  refine ⟨read_write_without hlib hsize, fun text hread => ?_, ofText_write hlib hsize⟩
  have hof := ofText_of_read hlib hsize ho hread
  refine ⟨restores hlib o hsize ho, ?_, fun e he => ?_⟩
  · rw [hof]
    cases (c.without o).fault <;> simp
  · rw [hof, he]

omit hlib

/-- Settings with a filter and a device, to leave something out of at each depth. -/
def nested : Settings where
  poolSize := 7
  passthrough := [⟨9, 1, "portal"⟩]
  emulated := [{
    name := "toy"
    interfaces := [{ endpoints := [{ address := 0x82, interval := 4 }] }] }]

/-- The library that comes along reads the rest with defaults, if all is left out that is not needed
to tell the filter and the endpoint. -/
theorem ofText_of_nested :
    let keys := ["passthrough", "vendor_id", "product_id", "emulated", "interfaces", "endpoints",
      "address"]
    let o : Omission := fun path => match path.getLast? with
      | some (.key k) => k ∉ keys
      | _ => false
    ofText .standard (Json.render ((toJson nested).without o)) = .ok {
      passthrough := [⟨9, 1, ""⟩]
      emulated := [{ interfaces := [{ endpoints := [{ address := 0x82 }] }] }] } := by
  intro keys o
  obtain ⟨hread, hof, -⟩ := ofText_of_omission Library.faithful_standard (c := nested) (o := o)
    (by decide) fun _ => ⟨rfl, rfl⟩
  obtain ⟨-, haccepted, -⟩ := hof _ hread
  exact haccepted.2 (by decide)

end Settings

end VirtualUsb
