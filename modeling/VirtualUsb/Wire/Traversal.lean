import VirtualUsb.Wire.Tree
import VirtualUsb.Guest.Memory

/-!
# Going through a tree

A tree is gone through in pre-order in two ways. A walk (`Walk`) keeps the trees that are still to
be seen on a stack and gives one node at each step. Serialization (`DescriptorTree.serialize`)
recurses into the children and fills a lent buffer as it goes; it leaves off as soon as the buffer
is full.
-/

namespace VirtualUsb

/-! ## Walks -/

/-- A walk through trees: those still to be seen, the next one first. -/
structure Walk where
  pending : List DescriptorTree

namespace Walk

def of (t : DescriptorTree) : Walk := ⟨[t]⟩

/-- The next node with all below it, and the walk that goes on into its children. -/
def next? (w : Walk) : Option (DescriptorTree × Walk) :=
  match w.pending with
  | [] => none
  | t :: rest => some (t, ⟨t.children ++ rest⟩)

/-- The number of bytes of the trees still to be seen. -/
def size (w : Walk) : Nat := DescriptorTree.totalSizeAll w.pending

end Walk

namespace DescriptorTree

theorem totalSizeAll_append (ts us : List DescriptorTree) :
    totalSizeAll (ts ++ us) = totalSizeAll ts + totalSizeAll us := by
  induction ts with
  | nil => simp [totalSizeAll]
  | cons t ts ih =>
    simp only [List.cons_append, totalSizeAll, ih]
    omega

theorem totalSize_eq (t : DescriptorTree) :
    t.totalSize = t.root.size + totalSizeAll t.children := by
  cases t
  rfl

end DescriptorTree

namespace Walk

/-- Each step leaves less to be seen: the bytes of the node that it gives. -/
theorem size_next? {w w' : Walk} {t : DescriptorTree} (h : w.next? = some (t, w')) :
    w.size = t.root.size + w'.size := by
  obtain ⟨_ | ⟨u, rest⟩⟩ := w
  · nomatch h
  · cases h
    simp only [size, DescriptorTree.totalSizeAll, DescriptorTree.totalSize_eq,
      DescriptorTree.totalSizeAll_append]
    omega

/-- The nodes that a walk gives until its end. -/
def nodes (w : Walk) : List DescriptorTree :=
  match _h : w.next? with
  | none => []
  | some (t, w') => t :: w'.nodes
termination_by w.size
decreasing_by
  rw [size_next? _h, Descriptor.size]
  omega

end Walk

/-! ## Filling a lent buffer -/

/-- A buffer that is being filled from its start. -/
structure Filling where
  buffer : Array UInt8
  written : Nat := 0

namespace Filling

def room (f : Filling) : Nat := f.buffer.size - f.written

/-- The buffer with a chunk written behind what is there, as much of it as there is room for. -/
def put (f : Filling) (chunk : Bytes) : Filling :=
  let n := min chunk.length f.room
  ⟨Memory.store f.buffer f.written (chunk.take n), f.written + n⟩

end Filling

namespace DescriptorTree

mutual

/-- A tree written in pre-order: the header, the payload, then the children, each only if what
was before it fitted whole. -/
def fill (f : Filling) : DescriptorTree → Filling
  | node d ts =>
    if f.room < 2 then f.put [d.length, d.kind]
    else
      let g := f.put [d.length, d.kind]
      if g.room < d.payload.length then g.put d.payload
      else fillAll (g.put d.payload) ts

/-- A row of trees written one after another while there is room. -/
def fillAll (f : Filling) : List DescriptorTree → Filling
  | [] => f
  | t :: ts => if f.room = 0 then f else fillAll (fill f t) ts

end

/-- Writes a tree into a lent buffer. Gives the number of bytes written and the buffer after
that. -/
def serialize (t : DescriptorTree) (buffer : Array UInt8) : Nat × Array UInt8 :=
  let f := t.fill { buffer }
  (f.written, f.buffer)

end DescriptorTree

end VirtualUsb
