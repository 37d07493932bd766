import VirtualUsb.Host.Transport
import VirtualUsb.Time.Duration

/-!
# Transfers as text

The text of a transfer that waits to be handed to the host, for a reader who debugs a guest.
-/

namespace VirtualUsb

/-- A row of items in brackets. -/
def bracketed {α : Type} [ToString α] (items : List α) : String :=
  "[" ++ ", ".intercalate (items.map toString) ++ "]"

def TransferKind.name : TransferKind → String
  | .control => "Control"
  | .interrupt => "Interrupt"
  | .isochronous => "Isochronous"

def TransferKind.all : List TransferKind := [.control, .interrupt, .isochronous]

namespace HostTransfer

def describe (t : HostTransfer) : String :=
  "HostTransfer \x7b user_data: TransferId(" ++ toString t.id.index ++
    "), handle: " ++ toString t.handle ++
    ", kind: " ++ t.kind.name ++
    ", endpoint: " ++ toString t.endpoint ++
    ", buffer: " ++ bracketed t.buffer ++
    ", iso_packet_lengths: " ++ bracketed t.packetLengths ++
    ", timeout: " ++ Duration.render t.timeout ++ " \x7d"

def describeWaiting (t : HostTransfer) : String :=
  "HostSubmission \x7b transfer: " ++ t.describe ++ ", .. \x7d"

end HostTransfer

end VirtualUsb
