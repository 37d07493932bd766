import VirtualUsb.Proofs.Wire.Reading
import VirtualUsb.Proofs.Wire.Traversal

/-!
# Endpoints in flat bytes

An endpoint of a configuration is looked up in a tree, but it can be found in the bytes that the
tree was read from as well, by going from one length byte to the next
(`Configuration.findEndpoint_of_parse`). Neither that what follows an interface is nested below it
nor that too short descriptors are passed over makes a difference: the descriptors of the tree are
those of the bytes in the same order, and each is decoded from where it stands in them.
-/

namespace VirtualUsb

/-- The first endpoint with an address is the first one that a walk comes to. -/
theorem DescriptorTree.findEndpoint_eq_walk (t : DescriptorTree) (address : UInt8) :
    t.findEndpoint address =
      ((Walk.of t).nodes.filterMap (·.decode? EndpointDescriptor)).find?
        (·.address == address) := by
  rw [findEndpoint, ← Walk.map_root_nodes_of, List.filterMap_map]
  rfl

namespace Configuration

/-- Where the descriptors stand in some bytes from an offset on, each as far behind the one before
it as that one's length byte says. They end at a length that is shorter than a header or runs past
the end. -/
def placesFrom (bytes : Bytes) (i : Nat) : List Nat :=
  match bytes[i]? with
  | none => []
  | some length =>
    if length.toNat < 2 ∨ bytes.length < i + length.toNat then []
    else i :: placesFrom bytes (i + length.toNat)
termination_by bytes.length - i
decreasing_by omega

/-- Whether the descriptor at a place is a whole endpoint with an address. -/
def isEndpointAt (bytes : Bytes) (address : UInt8) (i : Nat) : Bool :=
  7 ≤ (bytes.getD i 0).toNat && bytes.getD (i + 1) 0 == DescriptorKind.endpoint &&
    bytes.getD (i + 2) 0 == address

/-- The endpoint in the bytes behind the header of the descriptor at a place. -/
def endpointAt (bytes : Bytes) (i : Nat) : EndpointDescriptor where
  address := bytes.getD (i + 2) 0
  attributes := bytes.getD (i + 3) 0
  maxPacketSize := Bytes.word (bytes.getD (i + 4) 0) (bytes.getD (i + 5) 0)
  interval := bytes.getD (i + 6) 0

/-- The first endpoint with an address in some bytes, found without a tree. -/
def scanEndpoint (bytes : Bytes) (address : UInt8) : Option EndpointDescriptor :=
  ((placesFrom bytes 0).find? (isEndpointAt bytes address)).map (endpointAt bytes)

def firstEndpoint (ds : List Descriptor) (address : UInt8) : Option EndpointDescriptor :=
  (ds.filterMap (Descriptor.decode? EndpointDescriptor)).find? (·.address == address)

variable {bytes rest : Bytes} {i : Nat} {length kind : UInt8}

/-! ## One descriptor -/

theorem decode_endpoint (payload : Bytes) :
    (Layout.decode payload : Option EndpointDescriptor) =
      if 5 ≤ payload.length then
        some ⟨payload.getD 0 0, payload.getD 1 0,
          Bytes.word (payload.getD 2 0) (payload.getD 3 0), payload.getD 4 0⟩
      else none := by
  match payload with
  | [] | [_] | [_, _] | [_, _, _] | [_, _, _, _] => rfl
  | _ :: _ :: _ :: _ :: _ :: rest =>
    rw [if_pos (by simp only [List.length_cons]; omega)]
    rfl

theorem getD_of_drop (h : bytes.drop i = rest) (k : Nat) :
    bytes.getD (i + k) 0 = rest.getD k 0 := by
  rw [← h, List.getD_eq_getElem?_getD, List.getD_eq_getElem?_getD, List.getElem?_drop]

/-- A whole descriptor in the bytes is decoded if it is an endpoint of full length, and then the
endpoint is what the bytes say there. -/
theorem decode?_ofPayload (h : bytes.drop i = length :: kind :: rest)
    (hrest : length.toNat ≤ rest.length + 2) :
    (Descriptor.ofPayload kind (rest.take (length.toNat - 2))).decode? EndpointDescriptor =
      if 7 ≤ length.toNat ∧ kind = DescriptorKind.endpoint then some (endpointAt bytes i)
      else none := by
  have hlt := length.toNat_lt
  have hlen : (rest.take (length.toNat - 2)).length = length.toNat - 2 := by
    rw [List.length_take]
    omega
  have hbyte (k : Nat) (hk : k < length.toNat - 2) :
      (rest.take (length.toNat - 2)).getD k 0 = bytes.getD (i + (k + 2)) 0 := by
    rw [getD_of_drop h, List.getD_eq_getElem?_getD, List.getElem?_take_of_lt hk,
      ← List.getD_eq_getElem?_getD]
    rfl
  rw [Descriptor.ofPayload_of_le kind (by omega)]
  show (if kind = DescriptorKind.endpoint then
    (Layout.decode (rest.take (length.toNat - 2)) : Option EndpointDescriptor) else none) = _
  by_cases hkind : kind = DescriptorKind.endpoint
  · rw [if_pos hkind, decode_endpoint, hlen]
    by_cases hfull : 7 ≤ length.toNat
    · rw [if_pos (by omega), if_pos ⟨hfull, hkind⟩, hbyte 0 (by omega), hbyte 1 (by omega),
        hbyte 2 (by omega), hbyte 3 (by omega), hbyte 4 (by omega)]
      rfl
    · rw [if_neg (by omega), if_neg fun e => hfull e.1]
  · rw [if_neg hkind, if_neg fun e => hkind e.2]

theorem isEndpointAt_of_drop (h : bytes.drop i = length :: kind :: rest) (address : UInt8) :
    isEndpointAt bytes address i =
      (decide (7 ≤ length.toNat ∧ kind = DescriptorKind.endpoint) &&
        (endpointAt bytes i).address == address) := by
  have hlength : bytes.getD i 0 = length := getD_of_drop h 0
  rw [isEndpointAt, hlength, getD_of_drop h 1, Bool.decide_and]
  rfl

/-! ## All of them -/

theorem drop_of_getElem? (hi : bytes[i]? = some length) :
    bytes.drop i = length :: bytes.drop (i + 1) := by
  rw [List.drop_eq_getElem?_toList_append, hi]
  rfl

theorem split_nil : split [] = [] := split_flat []

/-- No descriptor is split off where the first one would be shorter than a header or run past the
end. -/
theorem split_of_cut (h : length.toNat < 2 ∨ rest.length + 1 < length.toNat) :
    split (length :: rest) = [] := by
  cases rest with
  | nil => simp [split]
  | cons kind rest =>
    rw [List.length_cons] at h
    rw [split, if_pos (by omega)]

theorem split_of_whole (h2 : 2 ≤ length.toNat) (hrest : length.toNat ≤ rest.length + 2) :
    split (length :: kind :: rest) =
      Descriptor.ofPayload kind (rest.take (length.toNat - 2)) ::
        split ((length :: kind :: rest).drop length.toNat) := by
  obtain ⟨n, hn⟩ : ∃ n, length.toNat = n + 2 := ⟨length.toNat - 2, by omega⟩
  rw [split, if_neg (by omega), hn, Nat.add_sub_cancel, List.drop_succ_cons, List.drop_succ_cons]

theorem firstEndpoint_cons (d : Descriptor) (ds : List Descriptor) (address : UInt8) :
    firstEndpoint (d :: ds) address =
      ((d.decode? EndpointDescriptor).filter (·.address == address)).or
        (firstEndpoint ds address) := by
  rw [firstEndpoint, List.filterMap_cons]
  cases d.decode? EndpointDescriptor with
  | none => rfl
  | some e =>
    rw [List.find?_cons, Option.filter_some]
    cases e.address == address <;> rfl

/-- Splitting the bytes from an offset on and looking for an endpoint among the descriptors finds
what stands at the first place that holds one. -/
theorem firstEndpoint_split_drop (bytes : Bytes) (address : UInt8) (i : Nat) :
    firstEndpoint (split (bytes.drop i)) address =
      ((placesFrom bytes i).find? (isEndpointAt bytes address)).map (endpointAt bytes) := by
  fun_induction placesFrom bytes i with
  | case1 i hi =>
    rw [List.drop_of_length_le (List.getElem?_eq_none_iff.1 hi), split_nil]
    rfl
  | case2 i length hi hstop =>
    have hlen := congrArg List.length (drop_of_getElem? hi)
    rw [List.length_cons, List.length_drop] at hlen
    rw [drop_of_getElem? hi, split_of_cut (by omega)]
    rfl
  | case3 i length hi hstop ih =>
    have hlen : (bytes.drop i).length = bytes.length - i := List.length_drop
    match hdrop : bytes.drop i, hlen with
    | [], hlen | [_], hlen => simp only [List.length_nil, List.length_singleton] at hlen; omega
    | length' :: kind :: rest, hlen =>
    obtain rfl : length = length' := by
      rw [drop_of_getElem? hi] at hdrop
      exact (List.cons.inj hdrop).1
    rw [List.length_cons, List.length_cons] at hlen
    have hrest : length.toNat ≤ rest.length + 2 := by omega
    have hnext : (length :: kind :: rest).drop length.toNat = bytes.drop (i + length.toNat) := by
      rw [← hdrop, List.drop_drop]
    rw [split_of_whole (by omega) hrest, hnext, firstEndpoint_cons, ih,
      decode?_ofPayload hdrop hrest, List.find?_cons, isEndpointAt_of_drop hdrop]
    by_cases hwhole : 7 ≤ length.toNat ∧ kind = DescriptorKind.endpoint
    · rw [if_pos hwhole, decide_eq_true hwhole, Bool.true_and, Option.filter_some]
      cases (endpointAt bytes i).address == address <;> rfl
    · rw [if_neg hwhole, decide_eq_false hwhole]
      rfl

theorem scanEndpoint_eq (bytes : Bytes) (address : UInt8) :
    scanEndpoint bytes address = firstEndpoint (split bytes) address :=
  (firstEndpoint_split_drop bytes address 0).symm

/-- Whatever bytes a configuration was read from, the endpoint that is found in it for an address is
the first whole one with that address that one comes to by going through the bytes. -/
theorem findEndpoint_of_parse {t : DescriptorTree} (h : parse bytes = some t) (address : UInt8) :
    t.findEndpoint address = scanEndpoint bytes address := by
  obtain ⟨d, hd, hkind, rfl⟩ := (parse_eq_some_iff _ _).1 h
  have hfind : (DescriptorTree.node d (nest (split (bytes.drop d.size)))).findEndpoint address =
      firstEndpoint (d :: split (bytes.drop d.size)) address := by
    rw [DescriptorTree.findEndpoint, DescriptorTree.preorder, preorderAll_nest, firstEndpoint]
  rw [hfind, scanEndpoint_eq]
  match bytes, hd with
  | length :: kind :: rest, hd =>
    obtain ⟨-, -, hsize, hbytes⟩ := Descriptor.toBytes_of_ofBytes hd
    by_cases hwhole : length.toNat ≤ (length :: kind :: rest).length
    · -- the first descriptor is whole, so it is the first one that is split off
      rw [Nat.sub_eq_zero_of_le hwhole, List.replicate_zero, List.append_nil, ← hsize] at hbytes
      have hcut : length :: kind :: rest =
          d.toBytes ++ (length :: kind :: rest).drop d.size := by
        rw [hbytes, List.take_append_drop]
      rw [← split_toBytes_append, ← hcut]
    · -- it is filled up with zeros and stands alone, but it is no endpoint
      have hcut : split (length :: kind :: rest) = [] := split_of_cut (.inr (by simpa using hwhole))
      have hnone : d.decode? EndpointDescriptor = none := if_neg (by rw [hkind]; decide)
      rw [hcut, List.drop_of_length_le (by omega), split_nil, firstEndpoint_cons, hnone]
      rfl

end Configuration

end VirtualUsb
