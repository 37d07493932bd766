import VirtualUsb.Guest.Memory

/-!
# Guest buffers

A guest names its buffers by address and length. A buffer is only read or written when a transfer
needs it, long after the guest named it.
-/

namespace VirtualUsb

/-- The `len` bytes of guest memory from `addr` on. -/
structure GuestBuffer where
  addr : UInt64 := 0
  len : Nat := 0
  deriving DecidableEq, Repr, Inhabited

namespace GuestBuffer

def isEmpty (b : GuestBuffer) : Bool := b.len == 0

/-- The first `max` bytes of a buffer, or all of it. -/
def truncated (b : GuestBuffer) (max : Nat) : GuestBuffer := { b with len := min b.len max }

def readFrom (b : GuestBuffer) (m : Memory) : Bytes := m.read b.addr b.len

/-- The number of bytes of `data` that fit into a buffer. -/
def room (b : GuestBuffer) (data : Bytes) : Nat := min data.length b.len

/-- The memory with `data` stored in a buffer, as far as it fits. -/
def writeTo (b : GuestBuffer) (m : Memory) (data : Bytes) : Memory :=
  m.write b.addr (data.take b.len)

@[simp] theorem length_readFrom (b : GuestBuffer) (m : Memory) :
    (b.readFrom m).length = b.len := by simp [readFrom]

@[simp] theorem size_writeTo (b : GuestBuffer) (m : Memory) (data : Bytes) :
    (b.writeTo m data).size = m.size := by simp [writeTo]

end GuestBuffer

end VirtualUsb
