import Mathlib.Algebra.GroupWithZero.Nat
import VirtualUsb.Wire.Traversal
import VirtualUsb.Proofs.Wire.Nesting

/-!
# Serialization is a truncated walk

A walk gives the descriptors of a tree in pre-order (`Walk.map_root_nodes`), although its stack
never holds more than siblings that are still to be seen. Filling a buffer piece by piece, with an
exit wherever a piece did not fit, comes to the same as putting the whole pre-order into it at once
(`DescriptorTree.fill_eq_put`): once a piece was cut the buffer is full, and nothing is put into a
full buffer. The two meet in `DescriptorTree.serialize_eq_walk`.
-/

namespace VirtualUsb

/-! ## Walks -/

namespace Walk

/-- A walk gives the descriptors of what is on its stack, tree by tree in pre-order. -/
theorem map_root_nodes (w : Walk) :
    w.nodes.map DescriptorTree.root = DescriptorTree.preorderAll w.pending := by
  fun_induction nodes w with
  | case1 w hw =>
    obtain ⟨_ | ⟨u, rest⟩⟩ := w
    · rfl
    · nomatch hw
  | case2 w t w' hw ih =>
    obtain ⟨_ | ⟨u, rest⟩⟩ := w
    · nomatch hw
    · cases hw
      rw [List.map_cons, ih, DescriptorTree.preorderAll_append, DescriptorTree.preorderAll,
        DescriptorTree.preorder_eq_cons, List.cons_append]

theorem map_root_nodes_of (t : DescriptorTree) :
    (of t).nodes.map DescriptorTree.root = t.preorder := by
  rw [map_root_nodes, of, DescriptorTree.preorderAll, DescriptorTree.preorderAll, List.append_nil]

theorem flatMap_nodes_of (t : DescriptorTree) :
    (of t).nodes.flatMap (·.root.toBytes) = Descriptor.flat t.preorder := by
  rw [← map_root_nodes_of, Descriptor.flat, List.flatMap_map]

/-- The length bytes of a walk add up to the bytes of what is on its stack. -/
theorem sum_length_nodes (w : Walk) :
    (w.nodes.map fun t => t.root.length.toNat).sum = w.size := by
  fun_induction nodes w with
  | case1 w hw =>
    obtain ⟨_ | ⟨u, rest⟩⟩ := w
    · rfl
    · nomatch hw
  | case2 w t w' hw ih => rw [List.map_cons, List.sum_cons, ih, size_next? hw,
      Descriptor.toNat_length]

end Walk

/-! ## Filling a buffer -/

theorem Memory.store_append (bytes : Array UInt8) (i : Nat) (xs ys : Bytes) :
    store bytes i (xs ++ ys) = store (store bytes i xs) (i + xs.length) ys := by
  induction xs generalizing bytes i with
  | nil => rfl
  | cons x xs ih =>
    rw [List.cons_append, store, store, ih, List.length_cons]
    congr 1
    omega

theorem Memory.toList_store_zero (bytes : Array UInt8) (data : Bytes) :
    (store bytes 0 data).toList = Bytes.overlay bytes.toList data := by
  apply List.ext_getElem?
  intro j
  have hget : bytes.toList[j]? = bytes[j]? := Array.getElem?_toList ..
  rw [Array.getElem?_toList, getElem?_store, Nat.sub_zero]
  by_cases hj : j < bytes.size
  · rw [if_pos ⟨Nat.zero_le j, hj⟩, Bytes.getElem?_overlay (by rwa [Array.length_toList]), hget]
  · rw [if_neg (by omega), Array.getElem?_eq_none (by omega),
      List.getElem?_eq_none (by rw [Bytes.length_overlay, Array.length_toList]; omega)]

namespace Filling

variable (f : Filling)

theorem room_put (chunk : Bytes) : (f.put chunk).room = f.room - chunk.length := by
  simp only [room, put, Memory.size_store]
  omega

theorem put_nil : f.put [] = f := by
  simp [put, Memory.store]

theorem put_of_full (h : f.room = 0) (chunk : Bytes) : f.put chunk = f := by
  simp [put, h, Memory.store]

/-- Two chunks put one after the other are put as one. -/
theorem put_append (xs ys : Bytes) : f.put (xs ++ ys) = (f.put xs).put ys := by
  have hroom := f.room_put xs
  have hsplit : (xs ++ ys).take (min (xs ++ ys).length f.room) =
      xs.take (min xs.length f.room) ++ ys.take (min ys.length (f.put xs).room) := by
    rw [List.take_append, hroom]
    congr 1
    · rw [List.take_eq_take_iff, List.length_append]
      omega
    · rw [List.take_eq_take_iff, List.length_append]
      omega
  have hlen : (xs.take (min xs.length f.room)).length = min xs.length f.room := by
    rw [List.length_take]
    omega
  have hwritten : f.written + min (xs ++ ys).length f.room =
      f.written + min xs.length f.room + min ys.length (f.put xs).room := by
    rw [hroom, List.length_append]
    omega
  calc f.put (xs ++ ys)
      = ⟨Memory.store f.buffer f.written ((xs ++ ys).take (min (xs ++ ys).length f.room)),
          f.written + min (xs ++ ys).length f.room⟩ := rfl
    _ = (f.put xs).put ys := by
      rw [hsplit, Memory.store_append, hlen, hwritten]
      rfl

/-- What follows a chunk that was cut does not matter. -/
theorem put_append_of_cut {xs : Bytes} (h : f.room < xs.length) (ys : Bytes) :
    f.put (xs ++ ys) = f.put xs := by
  rw [put_append, put_of_full]
  rw [room_put]
  omega

end Filling

namespace DescriptorTree

open Descriptor (flat flat_nil flat_cons flat_append)

mutual

/-- A tree is put into a buffer as its pre-order: an early exit is only taken where there is no
room for what would follow. -/
theorem fill_eq_put (f : Filling) : ∀ t : DescriptorTree, t.fill f = f.put (flat t.preorder)
  | node d ts => by
    have hflat : flat (node d ts).preorder =
        [d.length, d.kind] ++ (d.payload ++ flat (preorderAll ts)) := by
      rw [preorder, flat_cons, Descriptor.toBytes]
      simp
    rw [fill, hflat]
    by_cases hheader : f.room < 2
    · have hcut : f.room < [d.length, d.kind].length := hheader
      rw [if_pos hheader, f.put_append_of_cut hcut]
    · rw [if_neg hheader, Filling.put_append]
      simp only []
      by_cases hpayload : (f.put [d.length, d.kind]).room < d.payload.length
      · rw [if_pos hpayload, Filling.put_append_of_cut _ hpayload]
      · rw [if_neg hpayload, Filling.put_append, fillAll_eq_put _ ts]

theorem fillAll_eq_put (f : Filling) :
    ∀ ts : List DescriptorTree, fillAll f ts = f.put (flat (preorderAll ts))
  | [] => by rw [fillAll, preorderAll, flat_nil, Filling.put_nil]
  | t :: ts => by
    rw [fillAll]
    by_cases hroom : f.room = 0
    · rw [if_pos hroom, f.put_of_full hroom]
    · rw [if_neg hroom, fill_eq_put f t, fillAll_eq_put _ ts, preorderAll, flat_append,
        Filling.put_append]

end

/-- Serialization lays as much of the pre-order over the buffer as fits. -/
theorem serialize_eq (t : DescriptorTree) (buffer : Array UInt8) :
    (t.serialize buffer).1 = min t.totalSize buffer.size ∧
      (t.serialize buffer).2.toList =
        (flat t.preorder).take (min t.totalSize buffer.size) ++
          buffer.toList.drop (min t.totalSize buffer.size) := by
  have hroom : ({ buffer } : Filling).room = buffer.size := Nat.sub_zero _
  have hlen := length_flat_preorder t
  constructor
  · simp only [serialize, fill_eq_put, Filling.put, hroom, hlen, Nat.zero_add]
  · simp only [serialize, fill_eq_put, Filling.put, hroom, hlen]
    have hcut : ((flat t.preorder).take (min t.totalSize buffer.size)).length =
        min t.totalSize buffer.size := by
      rw [List.length_take]
      omega
    rw [Memory.toList_store_zero, Bytes.overlay, hcut, List.take_of_length_le]
    rw [hcut, Array.length_toList]
    omega

/-- A whole tree on the wire is what serialization leaves in a buffer of just its size. -/
theorem toBytes_eq_serialize (t : DescriptorTree) :
    let r := t.serialize (Array.replicate t.totalSize 0)
    t.toBytes = r.2.toList.take r.1 := by
  intro r
  have hr : r.1 = _ ∧ r.2.toList = _ := t.serialize_eq (Array.replicate t.totalSize 0)
  rw [Array.size_replicate, Nat.min_self] at hr
  obtain ⟨hn, hbytes⟩ := hr
  have hwhole : (flat t.preorder).take t.totalSize = flat t.preorder :=
    List.take_of_length_le (Nat.le_of_eq (length_flat_preorder t))
  have hnone : (Array.replicate t.totalSize (0 : UInt8)).toList.drop t.totalSize = [] := by simp
  rw [hwhole, hnone, List.append_nil] at hbytes
  calc t.toBytes
      = flat t.preorder := toBytes_eq_flat t
    _ = (flat t.preorder).take t.totalSize := hwhole.symm
    _ = r.2.toList.take r.1 := by rw [hbytes, hn]

/-- Serialization is a walk cut to the buffer: the bytes written are the first ones of the nodes
that the walk gives, and what lies behind them in the buffer stays. The sizes of the nodes add up
to the size of the tree, and with room for all of them nothing is cut. -/
theorem serialize_eq_walk (t : DescriptorTree) (buffer : Array UInt8) :
    let nodes := (Walk.of t).nodes
    let wire := nodes.flatMap (·.root.toBytes)
    let n := (t.serialize buffer).1
    let filled := (t.serialize buffer).2
    n = min buffer.size t.totalSize ∧ filled.size = buffer.size ∧
      filled.toList.take n = wire.take n ∧ filled.toList.drop n = buffer.toList.drop n ∧
      (∀ u ∈ nodes, u.root.length.toNat = 2 + u.root.payload.length) ∧
      t.totalSize = (nodes.map (·.root.length.toNat)).sum ∧ t.toBytes = wire := by
  intro nodes wire n filled
  obtain ⟨hn, hfilled⟩ : n = _ ∧ filled.toList = _ := t.serialize_eq buffer
  have hwire : wire = flat t.preorder := Walk.flatMap_nodes_of t
  have hlen := length_flat_preorder t
  have hcut : (wire.take n).length = n := by
    rw [List.length_take, hwire]
    omega
  rw [← hn, ← hwire] at hfilled
  refine ⟨by omega, ?_, ?_, ?_, ?_, ?_, ?_⟩
  · have := congrArg List.length hfilled
    rw [List.length_append, hcut, List.length_drop, Array.length_toList,
      Array.length_toList] at this
    omega
  · rw [hfilled, List.take_append_of_le_length (by omega), List.take_take, Nat.min_self]
  · rw [hfilled, List.drop_append_of_le_length (by omega), List.drop_of_length_le (by omega),
      List.nil_append]
  · intro u _
    rw [Descriptor.toNat_length, Descriptor.size, Nat.add_comm]
  · rw [Walk.sum_length_nodes]
    simp [Walk.of, Walk.size, totalSizeAll]
  · rw [hwire, toBytes_eq_flat]

end DescriptorTree

end VirtualUsb
