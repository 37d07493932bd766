import VirtualUsb.Topology.Location
import VirtualUsb.Wire.Tree

/-!
# The state of a device

Whatever a device is made of, it stands at a location, has a tree of descriptors and a selected
configuration and interface.
-/

namespace VirtualUsb

/-- What every device keeps. The topmost descriptor is that of the device; its children are the
configurations. -/
structure DeviceState where
  location : Location
  descriptors : DescriptorTree
  configuration : UInt8 := 1
  interface : UInt8 := 0
  deriving DecidableEq

namespace DeviceState

def hasValue (value : UInt8) (t : DescriptorTree) : Bool :=
  (t.decode? ConfigurationDescriptor).any (·.value == value)

/-- The first configuration with the selected value, or else the first of all. -/
def activeConfiguration (d : DeviceState) : Option DescriptorTree :=
  (d.descriptors.children.find? (hasValue d.configuration)).or d.descriptors.children.head?

/-- The number of interfaces of the active configuration, zero if none is known. -/
def interfaceCount (d : DeviceState) : UInt8 :=
  ((d.activeConfiguration.bind (·.decode? ConfigurationDescriptor)).map (·.numInterfaces)).getD 0

/-- The descriptor of the device, blank if the topmost descriptor is of another kind. -/
def deviceDescriptor (d : DeviceState) : DeviceDescriptor :=
  (d.descriptors.decode? DeviceDescriptor).getD {}

end DeviceState

end VirtualUsb
