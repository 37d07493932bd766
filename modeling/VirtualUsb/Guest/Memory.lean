import VirtualUsb.Bytes

/-!
# Guest memory

Guest memory is a row of bytes from address zero on. An access is cut to the bytes that there are
(`Memory.clip`): reading past the end gives zeros (`Memory.fill`), and what is written past it is
dropped (`Memory.write`). Addresses do not wrap.
-/

namespace VirtualUsb

/-- The memory of a guest. Its size is a number that an address can be. -/
structure Memory where
  bytes : Array UInt8
  size_lt : bytes.size < UInt64.size
  deriving DecidableEq, Repr

namespace Memory

def maxSize : Nat := UInt64.size - 1

/-- Memory of a size, all zeros. -/
def blank (size : Nat) : Memory where
  bytes := Array.replicate (min size maxSize) 0
  size_lt := by
    rw [Array.size_replicate]
    exact Nat.lt_of_le_of_lt (Nat.min_le_right ..) (by decide)

instance : Inhabited Memory := ⟨blank 0⟩

def size (m : Memory) : Nat := m.bytes.size

/-- The byte at an address, zero past the end. -/
def byteAt (m : Memory) (i : Nat) : UInt8 := m.bytes.getD i 0

/-- Where the bytes lie that an access to `length` bytes from `addr` on reaches: from the first
index up to the second, which is left out. None are reached from past the end. The sum saturates. -/
def clip (m : Memory) (addr : UInt64) (length : Nat) : Option (Nat × Nat) :=
  if addr.toNat < m.size then
    some (addr.toNat, min (min (addr.toNat + length) (UInt64.size - 1)) m.size)
  else none

/-- What reading from `addr` on leaves in a lent buffer: the bytes that are reached, and zeros
behind them. -/
def fill (m : Memory) (addr : UInt64) (buffer : Bytes) : Bytes :=
  let zeros := buffer.map fun _ => 0
  match m.clip addr buffer.length with
  | some (start, stop) => Bytes.overlay zeros (m.bytes.extract start stop).toList
  | none => zeros

/-- The `length` bytes from `addr` on. -/
def read (m : Memory) (addr : UInt64) (length : Nat) : Bytes :=
  m.fill addr (List.replicate length 0)

/-- The bytes with `data` stored from index `i` on, as far as there are bytes. -/
def store (bytes : Array UInt8) (i : Nat) : Bytes → Array UInt8
  | [] => bytes
  | b :: data => store (bytes.setIfInBounds i b) (i + 1) data

theorem size_store (bytes : Array UInt8) (i : Nat) (data : Bytes) :
    (store bytes i data).size = bytes.size := by
  induction data generalizing bytes i with
  | nil => rfl
  | cons b data ih => simp [store, ih]

/-- The memory with `data` stored from `addr` on, as much of it as is reached. -/
def write (m : Memory) (addr : UInt64) (data : Bytes) : Memory :=
  match m.clip addr data.length with
  | some (start, stop) =>
    ⟨store m.bytes start (data.take (stop - start)), by rw [size_store]; exact m.size_lt⟩
  | none => m

@[simp] theorem size_blank (n : Nat) : (blank n).size = min n maxSize := by simp [blank, size]

theorem getElem?_store (bytes : Array UInt8) (i j : Nat) (data : Bytes) :
    (store bytes i data)[j]? =
      if i ≤ j ∧ j < bytes.size then (data[j - i]?).or bytes[j]? else bytes[j]? := by
  induction data generalizing bytes i with
  | nil => simp [store]
  | cons b data ih =>
    rw [store, ih, Array.size_setIfInBounds, Array.getElem?_setIfInBounds]
    by_cases hj : j < bytes.size
    · rcases Nat.lt_trichotomy j i with h | h | h
      · have : ¬ i ≤ j := by omega
        have : ¬ i + 1 ≤ j := by omega
        have : ¬ i = j := by omega
        simp [*]
      · subst h
        have : ¬ j + 1 ≤ j := by omega
        simp [*]
      · have : i ≤ j := by omega
        have : i + 1 ≤ j := by omega
        have : ¬ i = j := by omega
        have : j - i = (j - (i + 1)) + 1 := by omega
        simp [*]
    · have : ¬ (i = j ∧ i < bytes.size) := by omega
      by_cases h : i = j <;> simp [*]

/-! ## Clipped accesses -/

/-- An access reaches the bytes in memory that it names. No memory ends where a sum saturates. -/
theorem clip_eq (m : Memory) (addr : UInt64) (length : Nat) :
    m.clip addr length =
      if addr.toNat < m.size then some (addr.toNat, min (addr.toNat + length) m.size)
      else none := by
  have hsize : m.size < UInt64.size := m.size_lt
  have hmin : min (min (addr.toNat + length) (UInt64.size - 1)) m.size =
      min (addr.toNat + length) m.size := by omega
  rw [clip, hmin]

theorem byteAt_eq (m : Memory) (i : Nat) : m.byteAt i = m.bytes[i]?.getD 0 :=
  Array.getD_eq_getD_getElem? ..

theorem byteAt_of_size_le {m : Memory} {i : Nat} (h : m.size ≤ i) : m.byteAt i = 0 := by
  rw [byteAt_eq, Array.getElem?_eq_none h, Option.getD_none]

theorem getElem?_fill (m : Memory) (addr : UInt64) {buffer : Bytes} {i : Nat}
    (hi : i < buffer.length) : (m.fill addr buffer)[i]? = some (m.byteAt (addr.toNat + i)) := by
  have hzeros : buffer.map (fun _ => 0) = List.replicate buffer.length (0 : UInt8) :=
    List.map_const' ..
  have hzero : (List.replicate buffer.length (0 : UInt8))[i]? = some 0 :=
    List.getElem?_replicate_of_lt hi
  rw [fill, clip_eq, hzeros]
  by_cases haddr : addr.toNat < m.size
  · rw [if_pos haddr]
    show (Bytes.overlay _ (m.bytes.extract _ _).toList)[i]? = _
    rw [Bytes.getElem?_overlay (by rwa [List.length_replicate]), hzero, Array.getElem?_toList,
      Array.getElem?_extract]
    have hsize : m.size = m.bytes.size := rfl
    by_cases hend : addr.toNat + i < m.size
    · rw [if_pos (by omega), byteAt_eq, Array.getElem?_eq_getElem hend]
      rfl
    · rw [if_neg (by omega), byteAt_of_size_le (by omega), Option.none_or]
  · rw [if_neg haddr, byteAt_of_size_le (by omega)]
    exact hzero

@[simp] theorem length_fill (m : Memory) (addr : UInt64) (buffer : Bytes) :
    (m.fill addr buffer).length = buffer.length := by
  unfold fill
  split <;> simp

@[simp] theorem length_read (m : Memory) (addr : UInt64) (n : Nat) :
    (m.read addr n).length = n := by simp [read]

theorem getElem?_read (m : Memory) (addr : UInt64) {n i : Nat} (hi : i < n) :
    (m.read addr n)[i]? = some (m.byteAt (addr.toNat + i)) :=
  m.getElem?_fill addr (by rwa [List.length_replicate])

/-- Stored data is read back where it fits, and no other byte changes. -/
theorem byteAt_write (m : Memory) (addr : UInt64) (data : Bytes) (i : Nat) :
    (m.write addr data).byteAt i =
      if addr.toNat ≤ i ∧ i < addr.toNat + data.length ∧ i < m.size then
        data.getD (i - addr.toNat) 0
      else m.byteAt i := by
  unfold write
  rw [clip_eq]
  by_cases haddr : addr.toNat < m.size
  · rw [if_pos haddr]
    show (Memory.mk (store m.bytes addr.toNat _) _).byteAt i = _
    rw [byteAt_eq, byteAt_eq, getElem?_store, List.getElem?_take, List.getD_eq_getElem?_getD]
    have hsize : m.size = m.bytes.size := rfl
    by_cases hi : addr.toNat ≤ i ∧ i < addr.toNat + data.length ∧ i < m.size
    · rw [if_pos hi, if_pos (by omega), if_pos (by omega),
        List.getElem?_eq_getElem (show i - addr.toNat < data.length by omega)]
      rfl
    · rw [if_neg hi]
      split
      · rw [if_neg (by omega), Option.none_or]
      · rfl
  · rw [if_neg haddr, if_neg (by omega)]

@[simp] theorem size_write (m : Memory) (addr : UInt64) (data : Bytes) :
    (m.write addr data).size = m.size := by
  unfold write
  split
  · exact size_store ..
  · rfl

end Memory

end VirtualUsb
