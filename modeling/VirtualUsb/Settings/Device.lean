import VirtualUsb.Device.Emulated
import VirtualUsb.Settings.Basic

/-!
# Devices from settings

The emulated device that some settings describe: its descriptors, and the strings that they name.
-/

namespace VirtualUsb.EmulatedSettings

/-- The strings of the device, in the order of their indices. -/
def strings (c : EmulatedSettings) : List String :=
  c.manufacturer.toList ++ c.product.toList ++ c.serialNumber.toList

/-- The index of a string that may be absent, behind the strings `before` it. -/
def stringIndex (before : List String) (text : Option String) : UInt8 :=
  if text.isSome then UInt8.ofNat (before.length + 1) else 0

/-- The descriptor of the device, which has no configuration yet. -/
def deviceDescriptor (c : EmulatedSettings) : DeviceDescriptor where
  usbVersion := c.usbVersion
  deviceClass := c.deviceClass
  subclass := c.subclass
  protocol := c.protocol
  maxPacketSize := c.maxPacketSize
  vendorId := c.vendorId
  productId := c.productId
  deviceVersion := c.deviceVersion
  manufacturerIndex := stringIndex [] c.manufacturer
  productIndex := stringIndex c.manufacturer.toList c.product
  serialNumberIndex := stringIndex (c.manufacturer.toList ++ c.product.toList) c.serialNumber

def endpoint (e : EndpointSettings) : EndpointDescriptor :=
  ⟨e.address, e.attributes, e.maxPacketSize, e.interval⟩

/-- The HID descriptor that announces a report descriptor. -/
def hid (reportLength : UInt16) : HidDescriptor where
  hidVersion := 0x0111
  numDescriptors := 1
  reportKind := DescriptorKind.hidReport
  reportLength

/-- The interface with the given number, with what stands below it. -/
def interface (i : InterfaceSettings) (number : Nat) : DescriptorTree :=
  .node
    (.ofLayout { number := UInt8.ofNat number
                 numEndpoints := UInt8.ofNat i.endpoints.length
                 interfaceClass := i.interfaceClass
                 subclass := i.subclass
                 protocol := i.protocol : InterfaceDescriptor })
    (i.hidReportLength.toList.map (.ofLayout ∘ hid) ++ i.endpoints.map (.ofLayout ∘ endpoint))

def configuration (c : EmulatedSettings) : DescriptorTree :=
  .node
    (.ofLayout { numInterfaces := UInt8.ofNat c.interfaces.length
                 value := 1
                 attributes := if c.selfPowered then 0xC0 else 0x80
                 maxPower := c.maxPower : ConfigurationDescriptor })
    (c.interfaces.mapIdx fun number i => interface i number)

def device {σ : Type} (c : EmulatedSettings) (location : Location) : Emulated σ :=
  { Emulated.ofDescriptor c.deviceDescriptor location with
    strings := c.strings
    status := { selfPowered := c.selfPowered } }.addConfiguration c.configuration

end VirtualUsb.EmulatedSettings
