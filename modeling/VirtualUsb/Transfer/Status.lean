import VirtualUsb.Error

/-!
# Transfer statuses

A finished transfer has a status. The codes number the statuses as they appear in packed
isochronous results.
-/

namespace VirtualUsb

inductive TransferStatus
  | completed
  | error
  | timedOut
  | cancelled
  | stall
  | noDevice
  | overflow
  deriving DecidableEq, Repr, Inhabited

namespace TransferStatus

def code : TransferStatus → UInt8
  | .completed => 0
  | .error => 1
  | .timedOut => 2
  | .cancelled => 3
  | .stall => 4
  | .noDevice => 5
  | .overflow => 6

def isSuccess (s : TransferStatus) : Bool := s == .completed

/-- The status of a transfer that the host refused with an error. -/
def ofHost : HostError → TransferStatus
  | .noDevice => .noDevice
  | .timeout => .timedOut
  | .pipe => .stall
  | .overflow => .overflow
  | .interrupted => .cancelled
  | _ => .error

def name : TransferStatus → String
  | .completed => "completed"
  | .error => "error"
  | .timedOut => "timedOut"
  | .cancelled => "cancelled"
  | .stall => "stall"
  | .noDevice => "noDevice"
  | .overflow => "overflow"

/-- All statuses, in the order of their codes. -/
def all : List TransferStatus :=
  [.completed, .error, .timedOut, .cancelled, .stall, .noDevice, .overflow]

end TransferStatus

end VirtualUsb
