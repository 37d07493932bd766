import VirtualUsb.Json.Coded
import VirtualUsb.Json.Lookup
import VirtualUsb.Wire.Tree

/-!
# The JSON form of descriptors

Descriptors with a fixed layout as JSON records. A field that is left out is zero. An object may
hold such records under the names of their kinds.
-/

namespace VirtualUsb

open Json

instance : Coded DeviceDescriptor where
  toJson d := record [
    ("bcd_usb", toJson d.usbVersion), ("device_class", toJson d.deviceClass),
    ("device_subclass", toJson d.subclass), ("device_protocol", toJson d.protocol),
    ("max_packet_size0", toJson d.maxPacketSize), ("vendor_id", toJson d.vendorId),
    ("product_id", toJson d.productId), ("bcd_device", toJson d.deviceVersion),
    ("manufacturer_index", toJson d.manufacturerIndex), ("product_index", toJson d.productIndex),
    ("serial_number_index", toJson d.serialNumberIndex),
    ("num_configurations", toJson d.numConfigurations)]
  ofJson? lib j := do
    let [u, c, s, p, m, v, i, d, mi, pi, si, n] ←
      lib.fields ["bcd_usb", "device_class", "device_subclass", "device_protocol",
        "max_packet_size0", "vendor_id", "product_id", "bcd_device", "manufacturer_index",
        "product_index", "serial_number_index", "num_configurations"] j | none
    return ⟨← lib.optional 0 u, ← lib.optional 0 c, ← lib.optional 0 s, ← lib.optional 0 p,
      ← lib.optional 0 m, ← lib.optional 0 v, ← lib.optional 0 i, ← lib.optional 0 d,
      ← lib.optional 0 mi, ← lib.optional 0 pi, ← lib.optional 0 si, ← lib.optional 0 n⟩

instance : Coded ConfigurationDescriptor where
  toJson d := record [
    ("total_length", toJson d.totalLength), ("num_interfaces", toJson d.numInterfaces),
    ("configuration_value", toJson d.value), ("configuration_index", toJson d.stringIndex),
    ("attributes", toJson d.attributes), ("max_power", toJson d.maxPower)]
  ofJson? lib j := do
    let [t, n, v, i, a, p] ←
      lib.fields ["total_length", "num_interfaces", "configuration_value", "configuration_index",
        "attributes", "max_power"] j | none
    return ⟨← lib.optional 0 t, ← lib.optional 0 n, ← lib.optional 0 v, ← lib.optional 0 i,
      ← lib.optional 0 a, ← lib.optional 0 p⟩

instance : Coded InterfaceDescriptor where
  toJson d := record [
    ("interface_number", toJson d.number), ("alternate_setting", toJson d.alternateSetting),
    ("num_endpoints", toJson d.numEndpoints), ("interface_class", toJson d.interfaceClass),
    ("interface_subclass", toJson d.subclass), ("interface_protocol", toJson d.protocol),
    ("interface_index", toJson d.stringIndex)]
  ofJson? lib j := do
    let [n, a, e, c, s, p, i] ←
      lib.fields ["interface_number", "alternate_setting", "num_endpoints", "interface_class",
        "interface_subclass", "interface_protocol", "interface_index"] j | none
    return ⟨← lib.optional 0 n, ← lib.optional 0 a, ← lib.optional 0 e, ← lib.optional 0 c,
      ← lib.optional 0 s, ← lib.optional 0 p, ← lib.optional 0 i⟩

instance : Coded EndpointDescriptor where
  toJson d := record [
    ("endpoint_address", toJson d.address), ("attributes", toJson d.attributes),
    ("max_packet_size", toJson d.maxPacketSize), ("interval", toJson d.interval)]
  ofJson? lib j := do
    let [a, t, m, i] ←
      lib.fields ["endpoint_address", "attributes", "max_packet_size", "interval"] j | none
    return ⟨← lib.optional 0 a, ← lib.optional 0 t, ← lib.optional 0 m, ← lib.optional 0 i⟩

instance : Coded HidDescriptor where
  toJson d := record [
    ("bcd_hid", toJson d.hidVersion), ("country_code", toJson d.countryCode),
    ("num_descriptors", toJson d.numDescriptors),
    ("report_descriptor_type", toJson d.reportKind),
    ("report_descriptor_length", toJson d.reportLength)]
  ofJson? lib j := do
    let [v, c, n, k, l] ←
      lib.fields ["bcd_hid", "country_code", "num_descriptors", "report_descriptor_type",
        "report_descriptor_length"] j | none
    return ⟨← lib.optional 0 v, ← lib.optional 0 c, ← lib.optional 0 n, ← lib.optional 0 k,
      ← lib.optional 0 l⟩

/-- The descriptor of some kind whose record stands under a name. -/
def Descriptor.under? (α : Type) [Layout α] [Coded α] (key : String) (j : Json) :
    Option Descriptor :=
  (j.field? key).bind fun v => (Coded.ofJson? .standard v : Option α).map Descriptor.ofLayout

/-- The descriptor whose record stands under the name of its kind. -/
def Descriptor.named? (j : Json) : Option Descriptor :=
  (Descriptor.under? DeviceDescriptor "device" j).or <|
  (Descriptor.under? ConfigurationDescriptor "configuration" j).or <|
  (Descriptor.under? InterfaceDescriptor "interface" j).or <|
  (Descriptor.under? EndpointDescriptor "endpoint" j).or <|
  Descriptor.under? HidDescriptor "hid" j

/-- The record that the root of a tree reads as, under a name. -/
def DescriptorTree.reading (α : Type) [Layout α] [Coded α] (key : String) (t : DescriptorTree) :
    List (String × Json) :=
  (t.decode? α).toList.map fun d => (key, toJson d)

/-- The records that the root of a tree reads as, each under the name of its kind. -/
def DescriptorTree.readings (t : DescriptorTree) : Json :=
  record (t.reading DeviceDescriptor "device" ++
    t.reading ConfigurationDescriptor "configuration" ++
    t.reading InterfaceDescriptor "interface" ++ t.reading EndpointDescriptor "endpoint" ++
    t.reading HidDescriptor "hid")

end VirtualUsb
