import VirtualUsb.Json.Coded
import VirtualUsb.Settings.Basic

/-!
# The JSON form of settings

Settings are read from a JSON text. Every field that is left out has its default, except vendor
and product of a passthrough filter, which must be there.
-/

namespace VirtualUsb

open Json

instance : Coded PassthroughFilter where
  toJson f := record [
    ("vendor_id", toJson f.vendorId), ("product_id", toJson f.productId), ("name", toJson f.name)]
  ofJson? lib j := do
    let [v, p, n] ← lib.fields ["vendor_id", "product_id", "name"] j | none
    return ⟨← lib.required v, ← lib.required p, ← lib.optional "" n⟩

instance : Coded EndpointSettings where
  toJson e := record [
    ("address", toJson e.address), ("attributes", toJson e.attributes),
    ("max_packet_size", toJson e.maxPacketSize), ("interval", toJson e.interval)]
  ofJson? lib j := do
    let [a, t, m, i] ← lib.fields ["address", "attributes", "max_packet_size", "interval"] j | none
    let d : EndpointSettings := {}
    return ⟨← lib.optional d.address a, ← lib.optional d.attributes t,
      ← lib.optional d.maxPacketSize m, ← lib.optional d.interval i⟩

instance : Coded InterfaceSettings where
  toJson i := record [
    ("interface_class", toJson i.interfaceClass), ("interface_subclass", toJson i.subclass),
    ("interface_protocol", toJson i.protocol),
    ("hid_report_descriptor_length", toJson i.hidReportLength),
    ("endpoints", toJson i.endpoints)]
  ofJson? lib j := do
    let [c, s, p, h, e] ← lib.fields ["interface_class", "interface_subclass",
      "interface_protocol", "hid_report_descriptor_length", "endpoints"] j | none
    let d : InterfaceSettings := {}
    return ⟨← lib.optional d.interfaceClass c, ← lib.optional d.subclass s,
      ← lib.optional d.protocol p, ← lib.optional d.hidReportLength h, ← lib.optional d.endpoints e⟩

instance : Coded EmulatedSettings where
  toJson e := record [
    ("name", toJson e.name), ("vendor_id", toJson e.vendorId), ("product_id", toJson e.productId),
    ("bcd_usb", toJson e.usbVersion), ("bcd_device", toJson e.deviceVersion),
    ("device_class", toJson e.deviceClass), ("device_subclass", toJson e.subclass),
    ("device_protocol", toJson e.protocol), ("max_packet_size0", toJson e.maxPacketSize),
    ("manufacturer", toJson e.manufacturer), ("product", toJson e.product),
    ("serial_number", toJson e.serialNumber), ("self_powered", toJson e.selfPowered),
    ("max_power", toJson e.maxPower), ("interfaces", toJson e.interfaces),
    ("only_if_absent", toJson e.onlyIfAbsent)]
  ofJson? lib j := do
    let [name, vendor, product, usb, device, cls, sub, protocol, packet, manufacturer, productName,
        serial, powered, power, interfaces, absent] ←
      lib.fields ["name", "vendor_id", "product_id", "bcd_usb", "bcd_device", "device_class",
        "device_subclass", "device_protocol", "max_packet_size0", "manufacturer", "product",
        "serial_number", "self_powered", "max_power", "interfaces", "only_if_absent"] j | none
    let d : EmulatedSettings := {}
    return {
      name := ← lib.optional d.name name
      vendorId := ← lib.optional d.vendorId vendor
      productId := ← lib.optional d.productId product
      usbVersion := ← lib.optional d.usbVersion usb
      deviceVersion := ← lib.optional d.deviceVersion device
      deviceClass := ← lib.optional d.deviceClass cls
      subclass := ← lib.optional d.subclass sub
      protocol := ← lib.optional d.protocol protocol
      maxPacketSize := ← lib.optional d.maxPacketSize packet
      manufacturer := ← lib.optional d.manufacturer manufacturer
      product := ← lib.optional d.product productName
      serialNumber := ← lib.optional d.serialNumber serial
      selfPowered := ← lib.optional d.selfPowered powered
      maxPower := ← lib.optional d.maxPower power
      interfaces := ← lib.optional d.interfaces interfaces
      onlyIfAbsent := ← lib.optional d.onlyIfAbsent absent }

instance : Coded Settings where
  toJson c := record [
    ("transfer_pool_size", toJson c.poolSize), ("fake_transfer_latency_us", toJson c.latency),
    ("descriptor_read_timeout_ms", toJson c.readTimeout),
    ("passthrough", toJson c.passthrough), ("emulated", toJson c.emulated)]
  ofJson? lib j := do
    let [n, l, t, p, e] ← lib.fields ["transfer_pool_size", "fake_transfer_latency_us",
      "descriptor_read_timeout_ms", "passthrough", "emulated"] j | none
    let d : Settings := {}
    return ⟨← lib.optional d.poolSize n, ← lib.optional d.latency l, ← lib.optional d.readTimeout t,
      ← lib.optional d.passthrough p, ← lib.optional d.emulated e⟩

def SettingsError.toJson (e : SettingsError) : Json :=
  match e with
  | .malformed => record [("error", .ofText "Json")]
  | .poolSize got => record [
    ("error", .ofText "TransferPoolSize"), ("message", .ofText e.message), ("got", .ofNat got),
    ("max", .ofNat Settings.maxPoolSize)]
  | .emulatedDevice index fault => record [
    ("error", .ofText "EmulatedDevice"), ("message", .ofText e.message), ("index", .ofNat index),
    ("reason", .ofText fault.message)]

namespace Settings

/-- The settings in a value, if there is nothing wrong with them. -/
def ofJson (lib : Json.Library) (j : Json) : Except SettingsError Settings :=
  match Coded.ofJson? lib j with
  | none => .error .malformed
  | some (c : Settings) =>
    match c.fault with
    | none => .ok c
    | some e => .error e

/-- The settings in a text, if there is nothing wrong with them. -/
def ofText (lib : Json.Library) (text : String) : Except SettingsError Settings :=
  match lib.read text with
  | none => .error .malformed
  | some j => ofJson lib j

end Settings

end VirtualUsb
