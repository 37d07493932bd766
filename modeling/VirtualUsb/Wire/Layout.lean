import VirtualUsb.Wire.Descriptor

/-!
# Descriptor layouts

Five kinds of descriptor have a fixed payload layout. `Layout` gives the kind and both directions
of the code; decoding needs a payload of full length and ignores what follows it.
-/

namespace VirtualUsb

/-- A record with a fixed place in the payload of one kind of descriptor. -/
class Layout (α : Type) where
  kind : UInt8
  encode : α → Bytes
  decode : Bytes → Option α

/-- What a device is. -/
structure DeviceDescriptor where
  usbVersion : UInt16 := 0
  deviceClass : UInt8 := 0
  subclass : UInt8 := 0
  protocol : UInt8 := 0
  maxPacketSize : UInt8 := 0
  vendorId : UInt16 := 0
  productId : UInt16 := 0
  deviceVersion : UInt16 := 0
  manufacturerIndex : UInt8 := 0
  productIndex : UInt8 := 0
  serialNumberIndex : UInt8 := 0
  numConfigurations : UInt8 := 0
  deriving DecidableEq, Repr, Inhabited

/-- One way to run a device; power is counted in units of 2 mA. -/
structure ConfigurationDescriptor where
  totalLength : UInt16 := 0
  numInterfaces : UInt8 := 0
  value : UInt8 := 0
  stringIndex : UInt8 := 0
  attributes : UInt8 := 0
  maxPower : UInt8 := 0
  deriving DecidableEq, Repr, Inhabited

/-- One function of a configuration. -/
structure InterfaceDescriptor where
  number : UInt8 := 0
  alternateSetting : UInt8 := 0
  numEndpoints : UInt8 := 0
  interfaceClass : UInt8 := 0
  subclass : UInt8 := 0
  protocol : UInt8 := 0
  stringIndex : UInt8 := 0
  deriving DecidableEq, Repr, Inhabited

/-- One pipe of an interface. -/
structure EndpointDescriptor where
  address : UInt8 := 0
  attributes : UInt8 := 0
  maxPacketSize : UInt16 := 0
  interval : UInt8 := 0
  deriving DecidableEq, Repr, Inhabited

/-- The class descriptor of a human interface device. -/
structure HidDescriptor where
  hidVersion : UInt16 := 0
  countryCode : UInt8 := 0
  numDescriptors : UInt8 := 0
  reportKind : UInt8 := 0
  reportLength : UInt16 := 0
  deriving DecidableEq, Repr, Inhabited

open Bytes (ofWord word)

instance : Layout DeviceDescriptor where
  kind := DescriptorKind.device
  encode d :=
    ofWord d.usbVersion ++ [d.deviceClass, d.subclass, d.protocol, d.maxPacketSize] ++
      ofWord d.vendorId ++ ofWord d.productId ++ ofWord d.deviceVersion ++
      [d.manufacturerIndex, d.productIndex, d.serialNumberIndex, d.numConfigurations]
  decode
    | u₀ :: u₁ :: c :: s :: p :: m :: v₀ :: v₁ :: i₀ :: i₁ :: d₀ :: d₁ ::
        manufacturer :: product :: serial :: n :: _ =>
      some ⟨word u₀ u₁, c, s, p, m, word v₀ v₁, word i₀ i₁, word d₀ d₁,
        manufacturer, product, serial, n⟩
    | _ => none

instance : Layout ConfigurationDescriptor where
  kind := DescriptorKind.configuration
  encode d :=
    ofWord d.totalLength ++ [d.numInterfaces, d.value, d.stringIndex, d.attributes, d.maxPower]
  decode
    | t₀ :: t₁ :: n :: v :: i :: a :: p :: _ => some ⟨word t₀ t₁, n, v, i, a, p⟩
    | _ => none

instance : Layout InterfaceDescriptor where
  kind := DescriptorKind.interface
  encode d :=
    [d.number, d.alternateSetting, d.numEndpoints, d.interfaceClass, d.subclass, d.protocol,
      d.stringIndex]
  decode
    | n :: a :: e :: c :: s :: p :: i :: _ => some ⟨n, a, e, c, s, p, i⟩
    | _ => none

instance : Layout EndpointDescriptor where
  kind := DescriptorKind.endpoint
  encode d := [d.address, d.attributes] ++ ofWord d.maxPacketSize ++ [d.interval]
  decode
    | a :: t :: m₀ :: m₁ :: i :: _ => some ⟨a, t, word m₀ m₁, i⟩
    | _ => none

instance : Layout HidDescriptor where
  kind := DescriptorKind.hid
  encode d :=
    ofWord d.hidVersion ++ [d.countryCode, d.numDescriptors, d.reportKind] ++
      ofWord d.reportLength
  decode
    | v₀ :: v₁ :: c :: n :: k :: l₀ :: l₁ :: _ => some ⟨word v₀ v₁, c, n, k, word l₀ l₁⟩
    | _ => none

namespace Descriptor

variable {α : Type} [Layout α]

def ofLayout (a : α) : Descriptor := ofPayload (Layout.kind α) (Layout.encode a)

/-- The record in a descriptor of its kind. -/
def decode? (α : Type) [Layout α] (d : Descriptor) : Option α :=
  if d.kind = Layout.kind α then Layout.decode d.payload else none

end Descriptor

end VirtualUsb
