import VirtualUsb.Proofs.Wire.Emission

/-!
# Splitting and nesting

`Configuration.split` undoes the concatenation of descriptors (`split_flat`) and otherwise stops
where no further descriptor stands (`exists_rest_split`). `Configuration.nest` keeps the order of
the descriptors (`preorderAll_nest`) and gives the rows in canonical form, and each of them
(`nest_preorderAll_eq_iff`).
-/

namespace VirtualUsb

namespace DescriptorTree

/-! ## Canonical form -/

/-- A single descriptor that opens no interface. -/
def IsLoose (t : DescriptorTree) : Prop :=
  t.children = [] ∧ t.root.kind ≠ DescriptorKind.interface

/-- An interface with nothing but loose descriptors below it. -/
def IsFlatInterface (t : DescriptorTree) : Prop :=
  t.root.kind = DescriptorKind.interface ∧ ∀ u ∈ t.children, u.IsLoose

/-- A row of loose descriptors followed by interfaces. -/
def CanonicalRow (ts : List DescriptorTree) : Prop :=
  ∃ loose interfaces, ts = loose ++ interfaces ∧
    (∀ t ∈ loose, t.IsLoose) ∧ ∀ t ∈ interfaces, t.IsFlatInterface

/-- A tree in the form that a flat configuration is read back in. -/
def Canonical (t : DescriptorTree) : Prop := CanonicalRow t.children

theorem IsLoose.eq_leaf {t : DescriptorTree} (h : t.IsLoose) : leaf t.root = t := by
  obtain ⟨d, ts⟩ := t
  have hts : ts = [] := h.1
  rw [hts]
  rfl

theorem isLoose_leaf {d : Descriptor} (h : d.kind ≠ DescriptorKind.interface) :
    (leaf d).IsLoose := ⟨rfl, h⟩

theorem preorderAll_append (ts us : List DescriptorTree) :
    preorderAll (ts ++ us) = preorderAll ts ++ preorderAll us := by
  induction ts with
  | nil => rfl
  | cons t ts ih => rw [List.cons_append, preorderAll, preorderAll, ih, List.append_assoc]

theorem preorderAll_map_leaf (ds : List Descriptor) : preorderAll (ds.map leaf) = ds := by
  induction ds with
  | nil => rfl
  | cons d ds ih =>
    rw [List.map_cons, preorderAll, ih]
    rfl

theorem map_leaf_preorderAll {ts : List DescriptorTree} (h : ∀ t ∈ ts, t.IsLoose) :
    (preorderAll ts).map leaf = ts := by
  induction ts with
  | nil => rfl
  | cons t ts ih =>
    have ht : t.preorder = [t.root] := by
      rw [preorder_eq_cons, (h t (List.mem_cons_self ..)).1]
      rfl
    rw [preorderAll, ht, List.singleton_append, List.map_cons,
      (h t (List.mem_cons_self ..)).eq_leaf, ih fun u hu => h u (List.mem_cons_of_mem _ hu)]

end DescriptorTree

namespace Configuration

open DescriptorTree
open Descriptor (flat flat_nil flat_cons ofPayload_of_le)

/-! ## Splitting -/

/-- Whether no descriptor stands at the start of some bytes: there is no whole header, or the
length byte is shorter than the header or longer than what is left. -/
def Exhausted (rest : Bytes) : Prop :=
  rest.length < 2 ∨ ∃ l, rest.head? = some l ∧ (l.toNat < 2 ∨ rest.length < l.toNat)

theorem split_toBytes_append (d : Descriptor) (rest : Bytes) :
    split (d.toBytes ++ rest) = d :: split rest := by
  have hl := d.toNat_length
  have hs : d.size = d.payload.length + 2 := rfl
  have hn : d.length.toNat - 2 = d.payload.length := by omega
  rw [Descriptor.toBytes, List.cons_append, List.cons_append, split]
  rw [if_neg (by rw [List.length_append]; omega), hn, List.take_left, List.drop_left,
    ofPayload_of_le _ d.payload_le]

/-- Descriptors written one after another are read back. -/
theorem split_flat (ds : List Descriptor) : split (flat ds) = ds := by
  induction ds with
  | nil => rw [flat_nil, split]; simp
  | cons d ds ih => rw [flat_cons, split_toBytes_append, ih]

/-- A descriptor that fits into the bytes it stands in is written as those bytes. -/
theorem toBytes_ofPayload_take {length kind : UInt8} {rest : Bytes} (h2 : 2 ≤ length.toNat)
    (hr : length.toNat ≤ rest.length + 2) :
    (Descriptor.ofPayload kind (rest.take (length.toNat - 2))).toBytes =
      length :: kind :: rest.take (length.toNat - 2) := by
  have hlt := length.toNat_lt
  have hn : (rest.take (length.toNat - 2)).length = length.toNat - 2 := by
    rw [List.length_take]
    omega
  rw [ofPayload_of_le _ (by omega), Descriptor.toBytes]
  congr 1
  apply UInt8.toNat_inj.1
  rw [Descriptor.toNat_length, Descriptor.size, hn]
  omega

/-- Splitting goes on until no descriptor stands at the start of what is left. -/
theorem exists_rest_split (bytes : Bytes) :
    ∃ rest, bytes = flat (split bytes) ++ rest ∧ Exhausted rest := by
  fun_induction split bytes with
  | case1 length kind rest h =>
    refine ⟨_, rfl, .inr ⟨length, rfl, ?_⟩⟩
    rw [List.length_cons, List.length_cons]
    omega
  | case2 length kind rest h ih =>
    obtain ⟨tail, htail, hex⟩ := ih
    refine ⟨tail, ?_, hex⟩
    rw [flat_cons, toBytes_ofPayload_take (by omega) (by omega), List.append_assoc, ← htail,
      List.cons_append, List.cons_append, List.take_append_drop]
  | case3 bytes h =>
    refine ⟨bytes, rfl, .inl ?_⟩
    match bytes, h with
    | [], _ => exact Nat.zero_lt_two
    | [_], _ => exact Nat.one_lt_two
    | _ :: _ :: _, h => exact absurd rfl (h _ _ _)

/-! ## Nesting -/

theorem opensInterface_iff (d : Descriptor) :
    opensInterface d = true ↔ d.kind = DescriptorKind.interface := beq_iff_eq

theorem preorderAll_nest (ds : List Descriptor) : preorderAll (nest ds) = ds := by
  fun_induction nest ds with
  | case1 => rfl
  | case2 d ds h ih =>
    rw [preorderAll, preorder, preorderAll_map_leaf, ih, List.cons_append,
      List.takeWhile_append_dropWhile]
  | case3 d ds h ih =>
    rw [preorderAll, ih]
    rfl

/-- Nesting first gives the loose descriptors, then what begins with an interface. -/
theorem nest_eq_append (ds : List Descriptor) :
    nest ds = (ds.takeWhile (!opensInterface ·)).map leaf ++
      nest (ds.dropWhile (!opensInterface ·)) := by
  induction ds with
  | nil => rw [List.takeWhile_nil, List.dropWhile_nil, List.map_nil, List.nil_append]
  | cons d ds ih =>
    by_cases hd : opensInterface d = true
    · rw [List.takeWhile_cons_of_neg (by simp [hd]), List.dropWhile_cons_of_neg (by simp [hd]),
        List.map_nil, List.nil_append]
    · rw [List.takeWhile_cons_of_pos (by simp [hd]), List.dropWhile_cons_of_pos (by simp [hd]),
        nest, if_neg hd, ih]
      rfl

theorem isLoose_of_mem_takeWhile {ds : List Descriptor} {t : DescriptorTree}
    (h : t ∈ (ds.takeWhile (!opensInterface ·)).map leaf) : t.IsLoose := by
  obtain ⟨d, hd, rfl⟩ := List.mem_map.1 h
  have hd := List.all_eq_true.1 (List.all_takeWhile (l := ds) (p := (!opensInterface ·))) d hd
  refine isLoose_leaf fun hk => ?_
  rw [(opensInterface_iff d).2 hk] at hd
  exact Bool.noConfusion hd

theorem isFlatInterface_of_mem_nest (n : Nat) : ∀ ds : List Descriptor, ds.length ≤ n →
    ∀ t ∈ nest (ds.dropWhile (!opensInterface ·)), t.IsFlatInterface := by
  induction n with
  | zero =>
    intro ds hds t ht
    rw [List.length_eq_zero_iff.1 (Nat.le_zero.1 hds), List.dropWhile_nil, nest] at ht
    exact absurd ht List.not_mem_nil
  | succ n ih =>
    intro ds hds t ht
    cases hw : ds.dropWhile (!opensInterface ·) with
    | nil =>
      rw [hw, nest] at ht
      exact absurd ht List.not_mem_nil
    | cons d es =>
      have hd : opensInterface d = true := by
        have := List.head_dropWhile_not (!opensInterface ·) (l := ds) (by rw [hw]; simp)
        simpa [hw] using this
      have hes : es.length < ds.length := by
        have := (List.dropWhile_suffix (l := ds) (!opensInterface ·)).length_le
        rw [hw, List.length_cons] at this
        omega
      rw [hw, nest, if_pos hd] at ht
      rcases List.mem_cons.1 ht with rfl | ht
      · exact ⟨(opensInterface_iff d).1 hd, fun u hu => isLoose_of_mem_takeWhile hu⟩
      · exact ih es (by omega) t ht

theorem canonicalRow_nest (ds : List Descriptor) : CanonicalRow (nest ds) :=
  ⟨_, _, nest_eq_append ds, fun _ => isLoose_of_mem_takeWhile,
    isFlatInterface_of_mem_nest ds.length ds (Nat.le_refl _)⟩

/-! ## Canonical rows -/

theorem opensInterface_of_mem_loose {ts : List DescriptorTree} (h : ∀ t ∈ ts, t.IsLoose)
    {d : Descriptor} (hd : d ∈ preorderAll ts) : (!opensInterface d) = true := by
  rw [← map_leaf_preorderAll h] at h
  have := (h (leaf d) (List.mem_map_of_mem hd)).2
  rw [Bool.not_eq_true']
  exact Bool.eq_false_iff.2 fun hk => this ((opensInterface_iff d).1 hk)

/-- The pre-order of a row of interfaces is empty or begins with an interface. -/
theorem takeWhile_preorderAll_interfaces {ts : List DescriptorTree}
    (h : ∀ t ∈ ts, t.IsFlatInterface) :
    (preorderAll ts).takeWhile (!opensInterface ·) = [] ∧
      (preorderAll ts).dropWhile (!opensInterface ·) = preorderAll ts := by
  match ts with
  | [] => exact ⟨rfl, rfl⟩
  | t :: ts =>
    have ht := (opensInterface_iff _).2 (h t (List.mem_cons_self ..)).1
    rw [preorderAll, preorder_eq_cons, List.cons_append]
    exact ⟨List.takeWhile_cons_of_neg (by simp [ht]), List.dropWhile_cons_of_neg (by simp [ht])⟩

theorem nest_preorderAll_interfaces {ts : List DescriptorTree}
    (h : ∀ t ∈ ts, t.IsFlatInterface) : nest (preorderAll ts) = ts := by
  induction ts with
  | nil => rw [preorderAll, nest]
  | cons t ts ih =>
    obtain ⟨hk, hc⟩ := h t (List.mem_cons_self ..)
    have hts : ∀ u ∈ ts, u.IsFlatInterface := fun u hu => h u (List.mem_cons_of_mem _ hu)
    have hpos : ∀ d ∈ preorderAll t.children, (!opensInterface d) = true :=
      fun d hd => opensInterface_of_mem_loose hc hd
    obtain ⟨htake, hdrop⟩ := takeWhile_preorderAll_interfaces hts
    rw [preorderAll, preorder_eq_cons, List.cons_append, nest,
      if_pos ((opensInterface_iff _).2 hk), List.takeWhile_append_of_pos hpos, htake,
      List.append_nil, map_leaf_preorderAll hc, List.dropWhile_append_of_pos hpos, hdrop, ih hts,
      node_root_children]

/-- Nesting the pre-order of a row gives the row back if it is canonical, and only then. -/
theorem nest_preorderAll_eq_iff (ts : List DescriptorTree) :
    nest (preorderAll ts) = ts ↔ CanonicalRow ts := by
  constructor
  · intro h
    rw [← h]
    exact canonicalRow_nest _
  · rintro ⟨loose, interfaces, rfl, hl, hi⟩
    have hpos : ∀ d ∈ preorderAll loose, (!opensInterface d) = true :=
      fun d hd => opensInterface_of_mem_loose hl hd
    obtain ⟨htake, hdrop⟩ := takeWhile_preorderAll_interfaces hi
    rw [preorderAll_append, nest_eq_append, List.takeWhile_append_of_pos hpos, htake,
      List.append_nil, map_leaf_preorderAll hl, List.dropWhile_append_of_pos hpos, hdrop,
      nest_preorderAll_interfaces hi]

instance (t : DescriptorTree) : Decidable t.Canonical :=
  decidable_of_iff _ (nest_preorderAll_eq_iff t.children)

end Configuration

end VirtualUsb
