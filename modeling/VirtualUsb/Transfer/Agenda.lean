import VirtualUsb.Transfer.Pool

/-!
# The agenda

Emulated devices do not end their transfers at once: they set an end for a later time and note the
transfer on the agenda. `Agenda.pump` ends the transfers that are due, in the order of the agenda,
and forgets entries that have no end to wait for.
-/

namespace VirtualUsb

/-- The transfers whose end is scheduled, the first noted first. -/
structure Agenda where
  pending : List TransferId := []
  deriving DecidableEq, Repr, Inhabited

namespace Agenda

def size (a : Agenda) : Nat := a.pending.length

def isEmpty (a : Agenda) : Bool := a.pending.isEmpty

/-- The agenda with one more entry, the last. -/
def push (a : Agenda) (id : TransferId) : Agenda := ⟨a.pending ++ [id]⟩

@[simp] theorem pending_push (a : Agenda) (id : TransferId) :
    (a.push id).pending = a.pending ++ [id] := rfl

/-- What a pump leaves behind. -/
structure Pumped where
  completed : Nat
  agenda : Agenda
  pool : TransferPool

/-- Goes through entries at time `now`; `kept` holds the entries that wait on, the last first. -/
def sweep (now : UInt64) (pool : TransferPool) (completed : Nat) (kept : List TransferId) :
    List TransferId → Pumped
  | [] => ⟨completed, ⟨kept.reverse⟩, pool⟩
  | id :: rest =>
    match pool.get? id with
    | none => sweep now pool completed kept rest
    | some t =>
      match t.scheduled with
      | none => sweep now pool completed kept rest
      | some e =>
        if now < e.dueAt then sweep now pool completed (id :: kept) rest
        else sweep now (pool.set id (t.expire e)) (completed + 1) kept rest

/-- Ends every transfer on the agenda that is due at time `now`. -/
def pump (a : Agenda) (pool : TransferPool) (now : UInt64) : Pumped :=
  sweep now pool 0 [] a.pending

end Agenda

end VirtualUsb
