
/-!
# Settings

What a controller is set up with. Everything has a default; by default three toy portals of the
host are shown to the guest and nothing is emulated.
-/

namespace VirtualUsb

/-- Shows the host's devices of a vendor and product to the guest. -/
structure PassthroughFilter where
  vendorId : UInt16
  productId : UInt16
  name : String := ""
  deriving DecidableEq, Repr, Inhabited

/-- An endpoint of an emulated device; by default the first IN endpoint, for interrupts. -/
structure EndpointSettings where
  address : UInt8 := 0x81
  attributes : UInt8 := 0x03
  maxPacketSize : UInt16 := 64
  interval : UInt8 := 1
  deriving DecidableEq, Repr, Inhabited

/-- An interface of an emulated device. With a report length it gets a HID descriptor. -/
structure InterfaceSettings where
  interfaceClass : UInt8 := 0
  subclass : UInt8 := 0
  protocol : UInt8 := 0
  hidReportLength : Option UInt16 := none
  endpoints : List EndpointSettings := []
  deriving DecidableEq, Repr, Inhabited

/-- An emulated device with one configuration. -/
structure EmulatedSettings where
  name : String := ""
  vendorId : UInt16 := 0
  productId : UInt16 := 0
  usbVersion : UInt16 := 0x0200
  deviceVersion : UInt16 := 0x0100
  deviceClass : UInt8 := 0
  subclass : UInt8 := 0
  protocol : UInt8 := 0
  maxPacketSize : UInt8 := 64
  manufacturer : Option String := none
  product : Option String := none
  serialNumber : Option String := none
  selfPowered : Bool := false
  maxPower : UInt8 := 50
  interfaces : List InterfaceSettings := []
  /-- Leaves the device out if a host device of the same vendor and product is shown. -/
  onlyIfAbsent : Bool := false
  deriving DecidableEq, Repr, Inhabited

/-- The filters used by default. -/
def PassthroughFilter.portals : List PassthroughFilter :=
  [⟨0x1430, 0x0150, "Skylanders Portal"⟩,
    ⟨0x0E6F, 0x0129, "Disney Infinity Base"⟩,
    ⟨0x0E6F, 0x0241, "Lego Dimensions Portal"⟩]

structure Settings where
  poolSize : Nat := 68
  /-- The microseconds after which an emulated transfer ends. -/
  latency : UInt64 := 100
  /-- The milliseconds that a read of a configuration may take; zero is no limit. -/
  readTimeout : UInt64 := 0
  passthrough : List PassthroughFilter := PassthroughFilter.portals
  emulated : List EmulatedSettings := []
  deriving DecidableEq, Repr

instance : Inhabited Settings := ⟨{}⟩

/-- What is wrong with an emulated device. -/
inductive DeviceFault
  | maxPacketSize
  | tooManyInterfaces
  | tooManyEndpoints
  | controlEndpoint
  deriving DecidableEq, Repr

/-- Why settings are refused. -/
inductive SettingsError
  | malformed
  | poolSize (got : Nat)
  | emulatedDevice (index : Nat) (fault : DeviceFault)
  deriving DecidableEq, Repr

def DeviceFault.message : DeviceFault → String
  | .maxPacketSize => "max_packet_size0 must be 8, 16, 32, 64 or 9"
  | .tooManyInterfaces => "too many interfaces"
  | .tooManyEndpoints => "too many endpoints"
  | .controlEndpoint => "endpoint 0 cannot be described by an endpoint descriptor"

namespace Settings

def maxPoolSize : Nat := 256

def interfaceFault (i : InterfaceSettings) : Option DeviceFault :=
  if 30 < i.endpoints.length then some .tooManyEndpoints
  else if i.endpoints.any (·.address &&& 0x0F == 0) then some .controlEndpoint
  else none

def deviceFault (d : EmulatedSettings) : Option DeviceFault :=
  if d.maxPacketSize ∉ [8, 16, 32, 64, 9] then some .maxPacketSize
  else if 32 < d.interfaces.length then some .tooManyInterfaces
  else d.interfaces.findSome? interfaceFault

/-- The first faulty device among some, the first of which has index `i`. -/
def firstFault (i : Nat) : List EmulatedSettings → Option SettingsError
  | [] => none
  | d :: rest =>
    match deviceFault d with
    | some fault => some (.emulatedDevice i fault)
    | none => firstFault (i + 1) rest

def fault (c : Settings) : Option SettingsError :=
  if c.poolSize = 0 ∨ maxPoolSize < c.poolSize then some (.poolSize c.poolSize)
  else firstFault 0 c.emulated

/-- The first filter for a vendor and product. -/
def filterFor (c : Settings) (vendorId productId : UInt16) : Option PassthroughFilter :=
  c.passthrough.find? fun f => f.vendorId == vendorId && f.productId == productId

end Settings

/-- The wording of an error. The wording for text that is no settings is left to its reader. -/
def SettingsError.message : SettingsError → String
  | .malformed => "invalid usbd config json"
  | .poolSize got =>
    "transfer_pool_size must be in 1..=" ++ toString Settings.maxPoolSize ++
      " (got " ++ toString got ++ ")"
  | .emulatedDevice index fault =>
    "emulated device " ++ toString index ++ ": " ++ fault.message

end VirtualUsb
