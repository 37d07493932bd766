import VirtualUsb.Proofs.Wire.Nesting

/-!
# Reading flat configurations

What `Configuration.parse` makes of bytes. Of a tree on the wire it gives the same descriptors, and
the same tree exactly if that is canonical (`parse_toBytes`). Of any bytes it takes the longest
start that is made of whole descriptors (`parse_prefix`).
-/

namespace VirtualUsb

namespace Descriptor

/-- A payload that ends early is filled up with zeros. -/
theorem overlay_replicate (n : Nat) (rest : Bytes) :
    Bytes.overlay (List.replicate n 0) rest =
      rest.take n ++ List.replicate (n - rest.length) 0 := by
  rw [Bytes.overlay, List.length_replicate, List.drop_replicate]

/-- The descriptor at the start of some bytes is written as these bytes, cut to its length or
filled up to it with zeros. -/
theorem toBytes_of_ofBytes {length kind : UInt8} {rest : Bytes} {d : Descriptor}
    (h : ofBytes (length :: kind :: rest) = some d) :
    2 ≤ length.toNat ∧ d.kind = kind ∧ d.size = length.toNat ∧
      d.toBytes = (length :: kind :: rest).take length.toNat ++
        List.replicate (length.toNat - (length :: kind :: rest).length) 0 := by
  rw [ofBytes] at h
  split at h
  · cases h
  · rename_i h2
    have hlt := length.toNat_lt
    obtain ⟨n, hn⟩ : ∃ n, length.toNat = n + 2 := ⟨length.toNat - 2, by omega⟩
    rw [hn, Nat.add_sub_cancel, overlay_replicate] at h
    have hlen : (rest.take n ++ List.replicate (n - rest.length) 0).length = n := by
      rw [List.length_append, List.length_take, List.length_replicate]
      omega
    rw [ofPayload_of_le kind (by omega)] at h
    obtain rfl := Option.some.inj h
    have hsize : (⟨kind, _, Nat.le_trans (Nat.le_of_eq hlen) (by omega)⟩ : Descriptor).size =
        length.toNat := by rw [size, hlen, hn]
    refine ⟨by omega, rfl, hsize, ?_⟩
    rw [toBytes, hn, List.length_cons, List.length_cons, Nat.add_sub_add_right,
      List.take_succ_cons, List.take_succ_cons]
    congr 1
    apply UInt8.toNat_inj.1
    rw [toNat_length, hsize]

theorem ofBytes_isSome_iff (length kind : UInt8) (rest : Bytes) :
    (∃ d, ofBytes (length :: kind :: rest) = some d) ↔ 2 ≤ length.toNat := by
  rw [ofBytes]
  split
  · constructor
    · rintro ⟨d, h⟩
      cases h
    · intro h
      omega
  · constructor
    · intro _
      omega
    · intro _
      exact ⟨_, rfl⟩

theorem ofBytes_toBytes_append (d : Descriptor) (rest : Bytes) :
    ofBytes (d.toBytes ++ rest) = some d := by
  have hl := d.toNat_length
  have hs : d.size = d.payload.length + 2 := rfl
  have hn : d.length.toNat - 2 = d.payload.length := by omega
  rw [toBytes, List.cons_append, List.cons_append, ofBytes, if_neg (by omega), hn,
    overlay_replicate, List.take_left, List.length_append, Nat.sub_eq_zero_of_le (by omega),
    List.replicate_zero, List.append_nil, ofPayload_of_le _ d.payload_le]

end Descriptor

namespace Configuration

open DescriptorTree
open Descriptor (flat flat_cons)

/-- A configuration is parsed exactly if a whole header of its kind stands at the start. -/
theorem parse_eq_some_iff (bytes : Bytes) (c : DescriptorTree) :
    parse bytes = some c ↔ ∃ d, Descriptor.ofBytes bytes = some d ∧
      d.kind = DescriptorKind.configuration ∧ c = .node d (nest (split (bytes.drop d.size))) := by
  unfold parse
  cases hd : Descriptor.ofBytes bytes with
  | none => exact ⟨fun h => (nomatch h), fun ⟨_, h, _⟩ => (nomatch h)⟩
  | some d =>
    by_cases hk : d.kind = DescriptorKind.configuration
    · simp only [hk, if_true, Option.some.injEq]
      exact ⟨fun h => ⟨d, rfl, hk, h.symm⟩, fun ⟨_, e, _, h⟩ => by rw [h, ← e]⟩
    · simp only [hk, if_false]
      exact ⟨fun h => (nomatch h), fun ⟨_, e, hk', _⟩ => absurd (Option.some.inj e ▸ hk') hk⟩

theorem toBytes_node_nest (d : Descriptor) (ds : List Descriptor) :
    (DescriptorTree.node d (nest ds)).toBytes = d.toBytes ++ flat ds := by
  rw [toBytes_eq_flat, preorder, flat_cons, preorderAll_nest]

theorem ofBytes_toBytes_tree (n : DescriptorTree) : Descriptor.ofBytes n.toBytes = some n.root := by
  rw [toBytes_eq_flat, preorder_eq_cons, flat_cons, Descriptor.ofBytes_toBytes_append]

/-- What is read of a tree on the wire has the descriptors of the tree, nested anew. -/
theorem parse_toBytes_of_configuration {n : DescriptorTree}
    (h : n.root.kind = DescriptorKind.configuration) :
    parse n.toBytes = some (.node n.root (nest (preorderAll n.children))) := by
  refine (parse_eq_some_iff _ _).2 ⟨n.root, ofBytes_toBytes_tree n, h, ?_⟩
  rw [toBytes_eq_flat, preorder_eq_cons, flat_cons, ← Descriptor.length_toBytes, List.drop_left,
    split_flat]

/-- Writing a tree flat and reading it back loses no descriptor and changes no order. A tree that
is no configuration is not read at all, and exactly the canonical trees come back as they were. -/
theorem parse_toBytes (n : DescriptorTree) :
    (n.root.kind ≠ DescriptorKind.configuration → parse n.toBytes = none) ∧
    (n.root.kind = DescriptorKind.configuration →
      ∃ m, parse n.toBytes = some m ∧ m.preorder = n.preorder ∧ (m = n ↔ n.Canonical)) := by
  constructor
  · intro h
    cases hp : parse n.toBytes with
    | none => rfl
    | some m =>
      obtain ⟨d, hd, hk, -⟩ := (parse_eq_some_iff _ _).1 hp
      rw [ofBytes_toBytes_tree, Option.some.injEq] at hd
      exact absurd (hd ▸ hk) h
  · intro h
    refine ⟨_, parse_toBytes_of_configuration h, ?_, ?_⟩
    · rw [preorder, preorderAll_nest, ← preorder_eq_cons]
    · obtain ⟨d, ts⟩ := n
      show DescriptorTree.node d (nest (preorderAll ts)) = .node d ts ↔ CanonicalRow ts
      rw [← nest_preorderAll_eq_iff, DescriptorTree.node.injEq]
      exact ⟨And.right, fun e => ⟨rfl, e⟩⟩

/-- An endpoint beside an interface is read back below it. -/
example : ¬ (DescriptorTree.node ⟨DescriptorKind.configuration, [], by decide⟩
    [.leaf ⟨DescriptorKind.interface, [], by decide⟩,
      .leaf ⟨DescriptorKind.endpoint, [], by decide⟩]).Canonical := by
  decide +kernel

theorem isSome_parse_iff (bytes : Bytes) :
    (∃ c, parse bytes = some c) ↔ ∃ length rest,
      bytes = length :: DescriptorKind.configuration :: rest ∧ 2 ≤ length.toNat := by
  constructor
  · rintro ⟨c, hc⟩
    obtain ⟨d, hd, hk, -⟩ := (parse_eq_some_iff _ _).1 hc
    match bytes, hd with
    | length :: kind :: rest, hd =>
      obtain ⟨h2, hkind, -, -⟩ := Descriptor.toBytes_of_ofBytes hd
      exact ⟨length, rest, by rw [← hk, hkind], h2⟩
  · rintro ⟨length, rest, rfl, h2⟩
    obtain ⟨d, hd⟩ := (Descriptor.ofBytes_isSome_iff _ DescriptorKind.configuration rest).2 h2
    exact ⟨_, (parse_eq_some_iff _ _).2
      ⟨d, hd, (Descriptor.toBytes_of_ofBytes hd).2.1, rfl⟩⟩

theorem canonical_of_parse {bytes : Bytes} {c : DescriptorTree} (h : parse bytes = some c) :
    c.Canonical := by
  obtain ⟨d, -, -, rfl⟩ := (parse_eq_some_iff _ _).1 h
  exact canonicalRow_nest _

/-- If the first descriptor is whole, the tree is a start of the bytes, and where the tree ends no
further descriptor stands. -/
theorem parse_whole {length : UInt8} {rest : Bytes} {c : DescriptorTree}
    (hc : parse (length :: rest) = some c) (hl : length.toNat ≤ (length :: rest).length) :
    c.toBytes = (length :: rest).take c.totalSize ∧
      Exhausted ((length :: rest).drop c.totalSize) := by
  obtain ⟨d, hd, -, rfl⟩ := (parse_eq_some_iff _ _).1 hc
  match rest, hd with
  | kind :: rest, hd =>
    obtain ⟨-, -, hsize, hbytes⟩ := Descriptor.toBytes_of_ofBytes hd
    rw [Nat.sub_eq_zero_of_le hl, List.replicate_zero, List.append_nil] at hbytes
    generalize length :: kind :: rest = bytes at *
    obtain ⟨tail, htail, hex⟩ := exists_rest_split (bytes.drop d.size)
    have htree := toBytes_node_nest d (split (bytes.drop d.size))
    have hcut : bytes = (DescriptorTree.node d (nest (split (bytes.drop d.size)))).toBytes ++
        tail := by
      rw [htree, List.append_assoc, ← htail, hbytes, hsize, List.take_append_drop]
    generalize DescriptorTree.node d (nest (split (bytes.drop d.size))) = c at *
    rw [hcut, ← c.length_toBytes, List.take_left, List.drop_left]
    exact ⟨rfl, hex⟩

/-- If the first descriptor runs past the end, it is filled up with zeros and stands alone. -/
theorem parse_short {length : UInt8} {rest : Bytes} {c : DescriptorTree}
    (hc : parse (length :: rest) = some c) (hl : (length :: rest).length < length.toNat) :
    c.children = [] ∧
      c.toBytes = (length :: rest) ++
        List.replicate (length.toNat - (length :: rest).length) 0 := by
  obtain ⟨d, hd, -, rfl⟩ := (parse_eq_some_iff _ _).1 hc
  match rest, hd with
  | kind :: rest, hd =>
    obtain ⟨-, -, hsize, hbytes⟩ := Descriptor.toBytes_of_ofBytes hd
    have hnone : nest (split ((length :: kind :: rest).drop d.size)) = [] := by
      rw [List.drop_of_length_le (by omega)]
      exact congrArg nest (split_flat []) |>.trans (by rw [nest])
    refine ⟨hnone, ?_⟩
    rw [hnone, toBytes_eq_flat, preorder, preorderAll, flat_cons, Descriptor.flat_nil,
      List.append_nil, hbytes, List.take_of_length_le (Nat.le_of_lt hl)]

/-- Reading takes exactly the longest start of the bytes that is made of whole descriptors. There
is a configuration exactly if a whole header of one stands first; it is canonical, and it is written
as the bytes up to where no further descriptor stands. Only if already the first descriptor runs
past the end are the bytes filled up with zeros. -/
theorem parse_prefix (bytes : Bytes) :
    ((∃ c, parse bytes = some c) ↔ ∃ length rest,
      bytes = length :: DescriptorKind.configuration :: rest ∧ 2 ≤ length.toNat) ∧
    ∀ c length, parse bytes = some c → bytes.head? = some length →
      (∀ d ∈ c.preorder, d.length.toNat = 2 + d.payload.length) ∧ c.Canonical ∧
      (length.toNat ≤ bytes.length →
        c.toBytes = bytes.take c.totalSize ∧ Exhausted (bytes.drop c.totalSize)) ∧
      (bytes.length < length.toNat →
        c.children = [] ∧
          c.toBytes = bytes ++ List.replicate (length.toNat - bytes.length) 0) := by
  refine ⟨isSome_parse_iff bytes, fun c length hc hhead => ?_⟩
  match bytes, hhead with
  | _ :: rest, rfl =>
    refine ⟨fun d _ => ?_, canonical_of_parse hc, parse_whole hc, parse_short hc⟩
    rw [Descriptor.toNat_length, Descriptor.size, Nat.add_comm]

end Configuration

end VirtualUsb
