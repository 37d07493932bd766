import VirtualUsb.Wire.Configuration

/-!
# Trees on the wire

A tree is written as the plain concatenation of its descriptors in pre-order, cut to the room that
there is (`DescriptorTree.emit_eq_take`); with room for all of it nothing is cut
(`DescriptorTree.toBytes_eq_flat`).
-/

namespace VirtualUsb

namespace Descriptor

/-- Descriptors on the wire, one after another. -/
def flat (ds : List Descriptor) : Bytes := ds.flatMap toBytes

@[simp] theorem flat_nil : flat [] = [] := rfl

@[simp] theorem flat_cons (d : Descriptor) (ds : List Descriptor) :
    flat (d :: ds) = d.toBytes ++ flat ds := List.flatMap_cons

@[simp] theorem flat_append (ds es : List Descriptor) : flat (ds ++ es) = flat ds ++ flat es :=
  List.flatMap_append

theorem ofPayload_of_le (kind : UInt8) {payload : Bytes} (h : payload.length ≤ 253) :
    ofPayload kind payload = ⟨kind, payload, h⟩ := by
  unfold ofPayload
  congr 1
  exact List.take_of_length_le h

end Descriptor

namespace DescriptorTree

open Descriptor (flat)

mutual

theorem length_flat_preorder : ∀ t : DescriptorTree, (flat t.preorder).length = t.totalSize
  | node d ts => by
    rw [preorder, totalSize, Descriptor.flat_cons, List.length_append, Descriptor.length_toBytes,
      length_flat_preorderAll ts]

theorem length_flat_preorderAll :
    ∀ ts : List DescriptorTree, (flat (preorderAll ts)).length = totalSizeAll ts
  | [] => rfl
  | t :: ts => by
    rw [preorderAll, totalSizeAll, Descriptor.flat_append, List.length_append,
      length_flat_preorder t, length_flat_preorderAll ts]

end

mutual

/-- Writing a tree into some room gives as much of its pre-order as there is room for. -/
theorem emit_eq_take (room : Nat) : ∀ t : DescriptorTree,
    t.emit room = (flat t.preorder).take room
  | node d ts => by
    have hlen : (d.toBytes.take room).length = min room d.size := by
      rw [List.length_take, Descriptor.length_toBytes]
    rw [emit, preorder, Descriptor.flat_cons, List.take_append, Descriptor.length_toBytes]
    simp only [hlen]
    by_cases hr : room < d.size
    · rw [if_pos (by omega), show room - d.size = 0 by omega, List.take_zero, List.append_nil]
    · rw [if_neg (by omega), show min room d.size = d.size by omega, emitAll_eq_take _ ts]

theorem emitAll_eq_take (room : Nat) : ∀ ts : List DescriptorTree,
    emitAll room ts = (flat (preorderAll ts)).take room
  | [] => by rw [emitAll, preorderAll, Descriptor.flat_nil, List.take_nil]
  | t :: ts => by
    rw [emitAll, preorderAll, Descriptor.flat_append]
    by_cases hr : room = 0
    · rw [if_pos hr, hr, List.take_zero]
    · simp only [if_neg hr, emit_eq_take room t, List.length_take, List.take_append]
      -- what is left is the same whether or not the first tree used up the room
      rw [emitAll_eq_take _ ts,
        show room - min room (flat t.preorder).length = room - (flat t.preorder).length by omega]

end

theorem toBytes_eq_flat (t : DescriptorTree) : t.toBytes = flat t.preorder := by
  rw [toBytes, emit_eq_take]
  exact List.take_of_length_le (Nat.le_of_eq (length_flat_preorder t))

theorem length_toBytes (t : DescriptorTree) : t.toBytes.length = t.totalSize := by
  rw [toBytes_eq_flat, length_flat_preorder]

@[simp] theorem node_root_children (t : DescriptorTree) : node t.root t.children = t := by
  cases t
  rfl

theorem preorder_eq_cons (t : DescriptorTree) :
    t.preorder = t.root :: preorderAll t.children := by
  cases t
  rfl

end DescriptorTree

end VirtualUsb
