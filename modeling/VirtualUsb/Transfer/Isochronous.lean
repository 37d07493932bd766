import VirtualUsb.Guest.Buffer
import VirtualUsb.Transfer.Status

/-!
# Isochronous requests

An isochronous request has room for eight packets. Before the transfer a packet entry is the
length that the guest asks for; afterwards it is the packed result of the packet
(`IsoRequest.packPacket`).
-/

namespace VirtualUsb

/-- A request to move up to eight packets at a steady rate. -/
structure IsoRequest where
  endpoint : UInt8 := 0
  buffer : GuestBuffer := {}
  startFrame : UInt32 := 0
  numPackets : UInt32 := 0
  packets : Vector UInt16 8 := Vector.replicate 8 0
  deriving DecidableEq, Repr

instance : Inhabited IsoRequest := ⟨{}⟩

/-- What the host says of one packet. -/
structure PacketReport where
  length : UInt32 := 0
  actualLength : UInt32 := 0
  status : TransferStatus := .completed
  deriving DecidableEq, Repr, Inhabited

namespace IsoRequest

/-- The most packets of one request. -/
def maxPackets : Nat := 8

/-- The result of a packet in one word: the status code in the upper four bits, the length in the
lower twelve. Bits that do not fit are dropped. -/
def packPacket (status : UInt8) (length : UInt32) : UInt16 :=
  UInt16.ofNat (status.toNat % 16 * 4096 + length.toNat % 4096)

def packReport (r : PacketReport) : UInt16 := packPacket r.status.code r.actualLength

/-- The number of packets that count. -/
def packetCount (r : IsoRequest) : Nat := min r.numPackets.toNat maxPackets

/-- The packet entries that count. -/
def entries (r : IsoRequest) : List UInt16 := r.packets.toList.take r.packetCount

def totalLength (r : IsoRequest) : Nat := r.entries.foldl (fun total entry => total + entry.toNat) 0

/-- The request with its first entries replaced by reported results. -/
def withReports (r : IsoRequest) (reports : List PacketReport) : IsoRequest :=
  { r with packets := r.packets.mapIdx fun i entry => (reports[i]?.map packReport).getD entry }

end IsoRequest

end VirtualUsb
