import VirtualUsb.Json.Coded
import VirtualUsb.Text.Hex
import VirtualUsb.Topology.Enumeration
import VirtualUsb.Transfer.Report

/-!
# The JSON form of bus values

Packets, buffers, requests, records, errors and results as JSON.
-/

namespace VirtualUsb

open Json

instance : Coded SetupPacket where
  toJson p := record [
    ("bmRequestType", toJson p.requestType), ("bRequest", toJson p.request),
    ("wValue", toJson p.value), ("wIndex", toJson p.index), ("wLength", toJson p.length)]
  ofJson? lib j := do
    let [t, r, v, i, l] ←
      lib.fields ["bmRequestType", "bRequest", "wValue", "wIndex", "wLength"] j | none
    return ⟨← lib.required t, ← lib.required r, ← lib.required v, ← lib.required i,
      ← lib.required l⟩

instance : Coded GuestBuffer where
  toJson b := record [("addr", toJson b.addr), ("len", toJson b.len)]
  ofJson? lib j := do
    let [a, l] ← lib.fields ["addr", "len"] j | none
    return ⟨← lib.required a, ← lib.required l⟩

instance : Coded IsoRequest where
  toJson r := record [
    ("endpoint", toJson r.endpoint), ("buffer", toJson r.buffer),
    ("start_frame", toJson r.startFrame), ("num_packets", toJson r.numPackets),
    ("packets", toJson r.packets)]
  ofJson? lib j := do
    let [e, b, s, n, p] ←
      lib.fields ["endpoint", "buffer", "start_frame", "num_packets", "packets"] j | none
    return ⟨← lib.required e, ← lib.required b, ← lib.required s, ← lib.required n,
      ← lib.required p⟩

instance : Coded Location where
  toJson l := toJson l.bytes
  ofJson? lib j := (Coded.ofJson? lib j).map Location.mk

instance : Coded Speed where
  toJson s := .ofText s.name
  ofJson? lib := lib.choice? Speed.all Speed.name

instance : Coded TransferStatus where
  toJson s := .ofText s.name
  ofJson? lib := lib.choice? TransferStatus.all TransferStatus.name

instance : Coded TransferId where
  toJson id := toJson id.index
  ofJson? lib j := (Coded.ofJson? lib j).map TransferId.mk

/-- A location as fourteen hexadecimal digits. -/
def Location.hex (l : Location) : String := Hex.ofBytes l.bytes.toList

/-- The JSON form of a record. The descriptor is given as it stands on the wire. -/
def DeviceRecord.toJson (r : DeviceRecord) : Json :=
  record [("session", VirtualUsb.toJson r.sessionId), ("bus", VirtualUsb.toJson r.busNumber),
    ("address", VirtualUsb.toJson r.address), ("port", VirtualUsb.toJson r.port),
    ("speed", VirtualUsb.toJson r.speed), ("location", .ofText r.location.hex),
    ("raw", .ofText (Hex.ofBytes (Descriptor.ofLayout r.descriptor).toBytes))]

def HostError.toJson (e : HostError) : Json :=
  record [("error", .ofText e.name), ("message", .ofText e.message)]

def UsbError.toJson (e : UsbError) : Json :=
  record [("error", .ofText e.name), ("message", .ofText e.message),
    ("retryable", .bool e.isRetryable)]

def Transfer.toJson (t : Transfer) : Json :=
  record [("id", VirtualUsb.toJson t.id), ("busy", .bool t.busy), ("fake", .bool t.isScheduled),
    ("status", VirtualUsb.toJson t.status), ("count", VirtualUsb.toJson t.count)]

def TransferResult.toJson (r : TransferResult) : Json :=
  record [("busy", VirtualUsb.toJson r.busy), ("status", VirtualUsb.toJson r.status),
    ("actual_length", VirtualUsb.toJson r.actualLength)]

def IsoResult.toJson (r : IsoResult) : Json :=
  record [("busy", VirtualUsb.toJson r.busy), ("status", VirtualUsb.toJson r.status),
    ("start_frame", VirtualUsb.toJson r.startFrame), ("packets", VirtualUsb.toJson r.packets)]

def TransferSummary.toJson (s : TransferSummary) : Json :=
  record [("capacity", VirtualUsb.toJson s.capacity), ("busy", VirtualUsb.toJson s.busy),
    ("pending_fake", VirtualUsb.toJson s.pending)]

end VirtualUsb
