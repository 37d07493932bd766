import VirtualUsb.Guest.Buffer

/-!
# Memory as a map

Memory stands for a map that has a byte for each address without end, zero from the end of the
memory on (`Memory.map`). Accesses to memory are cut at its end, with a sum that saturates, and
those to the map are not; still an access answers the same of both and leaves the same map
(`Memory.access_map`), and so does every row of accesses (`Memory.refines_byteMap`).
-/

namespace VirtualUsb

/-! ## Maps -/

/-- A byte for each address. Only those below `size` can be written. -/
@[ext] structure ByteMap where
  size : Nat
  byte : Nat → UInt8

namespace ByteMap

def read (f : ByteMap) (addr length : Nat) : Bytes :=
  (List.range length).map fun i => f.byte (addr + i)

def write (f : ByteMap) (addr : Nat) (data : Bytes) : ByteMap where
  size := f.size
  byte a :=
    if addr ≤ a ∧ a < addr + data.length ∧ a < f.size then data.getD (a - addr) 0 else f.byte a

end ByteMap

def Memory.map (m : Memory) : ByteMap where
  size := m.size
  byte a := if h : a < m.bytes.size then m.bytes[a] else 0

/-! ## Accesses -/

/-- An access to guest memory by address, into a lent buffer or with data, or by a buffer of the
guest. -/
inductive MemoryAccess
  | read (addr : UInt64) (buffer : Bytes)
  | write (addr : UInt64) (data : Bytes)
  | readFrom (b : GuestBuffer)
  | writeTo (b : GuestBuffer) (data : Bytes)

/-- What an access answers: bytes, the number of bytes taken, or nothing. -/
inductive MemoryAnswer
  | bytes (bytes : Bytes)
  | taken (count : Nat)
  | none
  deriving DecidableEq

def Memory.access (m : Memory) : MemoryAccess → MemoryAnswer × Memory
  | .read addr buffer => (.bytes (m.fill addr buffer), m)
  | .write addr data => (.none, m.write addr data)
  | .readFrom b => (.bytes (b.readFrom m), m)
  | .writeTo b data => (.taken (b.room data), b.writeTo m data)

/-- An access as a map answers it: what was in a lent buffer does not matter, and of what is written
to a buffer of the guest only as much is taken as that is long. -/
def ByteMap.access (f : ByteMap) : MemoryAccess → MemoryAnswer × ByteMap
  | .read addr buffer => (.bytes (f.read addr.toNat buffer.length), f)
  | .write addr data => (.none, f.write addr.toNat data)
  | .readFrom b => (.bytes (f.read b.addr.toNat b.len), f)
  | .writeTo b data =>
    (.taken (min data.length b.len), f.write b.addr.toNat (data.take (min data.length b.len)))

/-- The answers to a row of accesses, and what they leave. -/
def MemoryAccess.run {σ : Type} (access : σ → MemoryAccess → MemoryAnswer × σ) (s : σ) :
    List MemoryAccess → List MemoryAnswer × σ
  | [] => ([], s)
  | a :: rest =>
    let (answer, s) := access s a
    let (answers, s) := run access s rest
    (answer :: answers, s)

theorem MemoryAccess.run_cons {σ : Type} (access : σ → MemoryAccess → MemoryAnswer × σ) (s : σ)
    (a : MemoryAccess) (rest : List MemoryAccess) :
    run access s (a :: rest) =
      ((access s a).1 :: (run access (access s a).2 rest).1, (run access (access s a).2 rest).2) :=
  rfl

namespace Memory

variable (m : Memory)

theorem byte_map (a : Nat) : m.map.byte a = m.byteAt a := by
  show (if h : a < m.bytes.size then m.bytes[a] else 0) = _
  rw [byteAt_eq]
  split
  · rename_i h
    rw [Array.getElem?_eq_getElem h, Option.getD_some]
  · rename_i h
    rw [Array.getElem?_eq_none (Nat.not_lt.1 h), Option.getD_none]

theorem fill_eq_read (addr : UInt64) (buffer : Bytes) :
    m.fill addr buffer = m.map.read addr.toNat buffer.length := by
  apply List.ext_getElem?
  intro i
  rw [ByteMap.read, List.getElem?_map]
  by_cases hi : i < buffer.length
  · rw [getElem?_fill m addr hi, List.getElem?_range hi, Option.map_some, byte_map]
  · rw [List.getElem?_eq_none (by rw [length_fill]; omega),
      List.getElem?_eq_none (by rw [List.length_range]; omega), Option.map_none]

theorem map_write (addr : UInt64) (data : Bytes) :
    (m.write addr data).map = m.map.write addr.toNat data := by
  refine ByteMap.ext (m.size_write addr data) ?_
  funext a
  show (m.write addr data).map.byte a =
    if addr.toNat ≤ a ∧ a < addr.toNat + data.length ∧ a < m.size then data.getD (a - addr.toNat) 0
    else m.map.byte a
  rw [byte_map, byte_map, byteAt_write]

end Memory

namespace GuestBuffer

variable (b : GuestBuffer) (m : Memory)

theorem readFrom_eq_read : b.readFrom m = m.map.read b.addr.toNat b.len := by
  rw [readFrom, Memory.read, Memory.fill_eq_read, List.length_replicate]

theorem map_writeTo (data : Bytes) :
    (b.writeTo m data).map = m.map.write b.addr.toNat (data.take (min data.length b.len)) := by
  have hcut : data.take b.len = data.take (min data.length b.len) := by
    rw [Nat.min_comm, List.take_eq_take_min]
  rw [writeTo, hcut, Memory.map_write]

end GuestBuffer

namespace Memory

/-- An access answers the same of a memory and of its map, and leaves the same map. -/
theorem access_map (m : Memory) (a : MemoryAccess) :
    (m.access a).1 = (m.map.access a).1 ∧ (m.access a).2.map = (m.map.access a).2 := by
  cases a with
  | read addr buffer => exact ⟨congrArg MemoryAnswer.bytes (m.fill_eq_read addr buffer), rfl⟩
  | write addr data => exact ⟨rfl, m.map_write addr data⟩
  | readFrom b => exact ⟨congrArg MemoryAnswer.bytes (b.readFrom_eq_read m), rfl⟩
  | writeTo b data => exact ⟨rfl, b.map_writeTo m data⟩

theorem run_map (m : Memory) (accesses : List MemoryAccess) :
    (MemoryAccess.run access m accesses).1 = (MemoryAccess.run ByteMap.access m.map accesses).1 ∧
      (MemoryAccess.run access m accesses).2.map =
        (MemoryAccess.run ByteMap.access m.map accesses).2 := by
  induction accesses generalizing m with
  | nil => exact ⟨rfl, rfl⟩
  | cons a rest ih =>
    obtain ⟨hanswer, hmap⟩ := m.access_map a
    obtain ⟨hanswers, hlast⟩ := ih (m.access a).2
    rw [hmap] at hanswers hlast
    rw [MemoryAccess.run_cons, MemoryAccess.run_cons]
    exact ⟨by rw [hanswer, hanswers], hlast⟩

/-- **Memory is a map with a byte for each address.** Reading fills a buffer with the bytes of the
map at the addresses from the first on, however large these grow, and writing changes the map where
there is data and memory, and nowhere else. What was written to one buffer of the guest is read from
any other as the map says, and as many bytes are taken as the data and the buffer have. Along every
row of accesses the answers are those of the map. -/
theorem refines_byteMap (m : Memory) :
    (∀ (addr : UInt64) (buffer : Bytes),
      m.fill addr buffer = m.map.read addr.toNat buffer.length) ∧
    (∀ (addr : UInt64) (data : Bytes),
      (m.write addr data).size = m.size ∧
        (m.write addr data).map = m.map.write addr.toNat data) ∧
    (∀ (b c : GuestBuffer) (data : Bytes),
      b.room data = min data.length b.len ∧
        c.readFrom (b.writeTo m data) =
          (m.map.write b.addr.toNat (data.take (min data.length b.len))).read c.addr.toNat c.len) ∧
    ∀ accesses : List MemoryAccess,
      (MemoryAccess.run access m accesses).1 = (MemoryAccess.run ByteMap.access m.map accesses).1 ∧
        (MemoryAccess.run access m accesses).2.map =
          (MemoryAccess.run ByteMap.access m.map accesses).2 := by
  refine ⟨m.fill_eq_read, fun addr data => ⟨m.size_write addr data, m.map_write addr data⟩,
    fun b c data => ⟨rfl, ?_⟩, m.run_map⟩
  rw [c.readFrom_eq_read, b.map_writeTo]

/-- At the end of memory data is cut, and behind it zeros are read, past the last address too. -/
example :
    MemoryAccess.run access (blank 4)
        [.writeTo ⟨2, 3⟩ [5, 6, 7, 8], .write 0xFFFFFFFFFFFFFFFF [9, 9], .readFrom ⟨1, 5⟩,
          .read 0xFFFFFFFFFFFFFFFF [1, 1]] =
      ([.taken 3, .none, .bytes [0, 5, 6, 0, 0], .bytes [0, 0]], ⟨#[0, 0, 5, 6], by decide⟩) := by
  decide

end Memory

end VirtualUsb
