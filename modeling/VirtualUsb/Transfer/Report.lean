import VirtualUsb.Transfer.Agenda

/-!
# Transfer reports

What a guest can read of its transfers: the result of one, the packets of an isochronous one, and
how full the pool is.
-/

namespace VirtualUsb

/-- What a guest reads of a transfer. -/
structure TransferResult where
  busy : Bool
  status : TransferStatus
  actualLength : UInt32
  deriving DecidableEq, Repr, Inhabited

/-- What a guest reads of an isochronous transfer. -/
structure IsoResult where
  busy : Bool
  status : TransferStatus
  startFrame : UInt32
  packets : List UInt16
  deriving DecidableEq, Repr, Inhabited

/-- How full a pool is. -/
structure TransferSummary where
  capacity : Nat
  busy : Nat
  pending : Nat
  deriving DecidableEq, Repr, Inhabited

namespace Transfer

def result (t : Transfer) : TransferResult := ⟨t.busy, t.status, t.count⟩

def isoResult (t : Transfer) : IsoResult := ⟨t.busy, t.status, t.iso.startFrame, t.iso.entries⟩

end Transfer

namespace TransferSummary

def describe (s : TransferSummary) : String :=
  "TransferSummary \x7b capacity: " ++ toString s.capacity ++
    ", busy: " ++ toString s.busy ++
    ", pending_fake: " ++ toString s.pending ++ " \x7d"

end TransferSummary

end VirtualUsb
