import VirtualUsb.Wire.Traversal
import VirtualUsb.Proofs.Wire.Emission

/-!
# Records in descriptors

Each of the five layouts has a fixed length (`FixedLayout`): the payloads that it reads are just
those that begin with what it writes of some record, and what follows is ignored. So a record is
read back from its descriptor and a payload that is read is written again, and by their kinds no
record is taken for one of another layout (`RecordKind.codec_inverse`).
-/

namespace VirtualUsb

/-! ## Layouts of fixed length -/

/-- A layout that writes all its records with one length. A payload is too short to be read, or it
begins with what is written of some record, which is read whatever follows. -/
class FixedLayout (α : Type) [Layout α] where
  payloadLength : Nat
  payloadLength_le : payloadLength ≤ 253
  length_encode : ∀ a : α, (Layout.encode a).length = payloadLength
  decode_append : ∀ (a : α) (rest : Bytes), Layout.decode (Layout.encode a ++ rest) = some a
  decode_cases : ∀ payload : Bytes,
    (payload.length < payloadLength ∧ (Layout.decode payload : Option α) = none) ∨
      ∃ (a : α) (rest : Bytes), payload = Layout.encode a ++ rest

open Bytes (ofWord word)

theorem Bytes.ofWord_word (lo hi : UInt8) : ofWord (word lo hi) = [lo, hi] := by
  rw [ofWord, low_word, high_word]

-- a payload is taken apart byte by byte: it ends before the last field, or a record stands in it

instance : FixedLayout DeviceDescriptor where
  payloadLength := 16
  payloadLength_le := by decide
  length_encode _ := rfl
  decode_append d rest := by simp [Layout.encode, Layout.decode, ofWord]
  decode_cases payload := by
    rcases payload with _ | ⟨u₀, _ | ⟨u₁, _ | ⟨c, _ | ⟨s, _ | ⟨p, _ | ⟨m, _ | ⟨v₀, _ | ⟨v₁, _ | ⟨i₀,
      _ | ⟨i₁, _ | ⟨d₀, _ | ⟨d₁, _ | ⟨manufacturer, _ | ⟨product, _ | ⟨serial, _ | ⟨n,
      rest⟩⟩⟩⟩⟩⟩⟩⟩⟩⟩⟩⟩⟩⟩⟩⟩
    any_goals exact .inl ⟨Nat.le_of_ble_eq_true rfl, rfl⟩
    refine .inr ⟨⟨word u₀ u₁, c, s, p, m, word v₀ v₁, word i₀ i₁, word d₀ d₁, manufacturer,
      product, serial, n⟩, rest, ?_⟩
    simp only [Layout.encode, Bytes.ofWord_word]
    rfl

instance : FixedLayout ConfigurationDescriptor where
  payloadLength := 7
  payloadLength_le := by decide
  length_encode _ := rfl
  decode_append d rest := by simp [Layout.encode, Layout.decode, ofWord]
  decode_cases payload := by
    rcases payload with _ | ⟨t₀, _ | ⟨t₁, _ | ⟨n, _ | ⟨v, _ | ⟨i, _ | ⟨a, _ | ⟨p, rest⟩⟩⟩⟩⟩⟩⟩
    any_goals exact .inl ⟨Nat.le_of_ble_eq_true rfl, rfl⟩
    refine .inr ⟨⟨word t₀ t₁, n, v, i, a, p⟩, rest, ?_⟩
    simp only [Layout.encode, Bytes.ofWord_word]
    rfl

instance : FixedLayout InterfaceDescriptor where
  payloadLength := 7
  payloadLength_le := by decide
  length_encode _ := rfl
  decode_append _ _ := rfl
  decode_cases payload := by
    rcases payload with _ | ⟨n, _ | ⟨a, _ | ⟨e, _ | ⟨c, _ | ⟨s, _ | ⟨p, _ | ⟨i, rest⟩⟩⟩⟩⟩⟩⟩
    any_goals exact .inl ⟨Nat.le_of_ble_eq_true rfl, rfl⟩
    exact .inr ⟨⟨n, a, e, c, s, p, i⟩, rest, rfl⟩

instance : FixedLayout EndpointDescriptor where
  payloadLength := 5
  payloadLength_le := by decide
  length_encode _ := rfl
  decode_append d rest := by simp [Layout.encode, Layout.decode, ofWord]
  decode_cases payload := by
    rcases payload with _ | ⟨a, _ | ⟨t, _ | ⟨m₀, _ | ⟨m₁, _ | ⟨i, rest⟩⟩⟩⟩⟩
    any_goals exact .inl ⟨Nat.le_of_ble_eq_true rfl, rfl⟩
    refine .inr ⟨⟨a, t, word m₀ m₁, i⟩, rest, ?_⟩
    simp only [Layout.encode, Bytes.ofWord_word]
    rfl

instance : FixedLayout HidDescriptor where
  payloadLength := 7
  payloadLength_le := by decide
  length_encode _ := rfl
  decode_append d rest := by simp [Layout.encode, Layout.decode, ofWord]
  decode_cases payload := by
    rcases payload with _ | ⟨v₀, _ | ⟨v₁, _ | ⟨c, _ | ⟨n, _ | ⟨k, _ | ⟨l₀, _ | ⟨l₁, rest⟩⟩⟩⟩⟩⟩⟩
    any_goals exact .inl ⟨Nat.le_of_ble_eq_true rfl, rfl⟩
    refine .inr ⟨⟨word v₀ v₁, c, n, k, word l₀ l₁⟩, rest, ?_⟩
    simp only [Layout.encode, Bytes.ofWord_word]
    rfl

namespace FixedLayout

variable {α : Type} [Layout α] [FixedLayout α] {payload : Bytes}

theorem decode_encode (a : α) : Layout.decode (Layout.encode a) = some a := by
  have h := decode_append a []
  rwa [List.append_nil] at h

theorem isSome_decode_iff :
    (Layout.decode payload : Option α).isSome ↔ payloadLength α ≤ payload.length := by
  rcases decode_cases (α := α) payload with ⟨hlt, hnone⟩ | ⟨a, rest, rfl⟩
  · rw [hnone]
    exact iff_of_false nofun (Nat.not_le.2 hlt)
  · rw [decode_append, List.length_append, length_encode]
    exact iff_of_true rfl (Nat.le_add_right _ _)

/-- What is read is written again as the start of the payload. -/
theorem encode_of_decode {a : α} (h : Layout.decode payload = some a) :
    Layout.encode a = payload.take (payloadLength α) := by
  rcases decode_cases (α := α) payload with ⟨-, hnone⟩ | ⟨b, rest, rfl⟩
  · exact nomatch hnone.symm.trans h
  · obtain rfl := Option.some.inj ((decode_append b rest).symm.trans h)
    rw [← length_encode b, List.take_left]

end FixedLayout

namespace Descriptor

/-- A descriptor of another kind holds no such record. -/
theorem decode?_of_kind_ne {α : Type} [Layout α] {d : Descriptor} (h : d.kind ≠ Layout.kind α) :
    d.decode? α = none := if_neg h

variable {α : Type} [Layout α] [FixedLayout α]

theorem payload_ofLayout (a : α) : (ofLayout a).payload = Layout.encode a :=
  List.take_of_length_le (FixedLayout.length_encode a ▸ FixedLayout.payloadLength_le)

theorem size_ofLayout (a : α) : (ofLayout a).size = 2 + FixedLayout.payloadLength α := by
  rw [size, payload_ofLayout, FixedLayout.length_encode, Nat.add_comm]

@[simp] theorem decode?_ofLayout (a : α) : (ofLayout a).decode? α = some a := by
  show (if Layout.kind α = Layout.kind α then _ else none) = _
  rw [if_pos rfl, payload_ofLayout, FixedLayout.decode_encode]

theorem isSome_decode?_iff (d : Descriptor) :
    (d.decode? α).isSome ↔
      d.kind = Layout.kind α ∧ FixedLayout.payloadLength α ≤ d.payload.length := by
  unfold decode?
  split
  · rename_i hkind
    rw [FixedLayout.isSome_decode_iff, and_iff_right hkind]
  · rename_i hkind
    exact iff_of_false nofun fun h => hkind h.1

theorem payload_ofLayout_of_decode? {d : Descriptor} {a : α} (h : d.decode? α = some a) :
    (ofLayout a).payload = d.payload.take (FixedLayout.payloadLength α) := by
  unfold decode? at h
  split at h
  · rw [payload_ofLayout, FixedLayout.encode_of_decode h]
  · exact nomatch h

end Descriptor

/-- A tree whose topmost descriptor is replaced grows and shrinks with that descriptor alone. -/
theorem DescriptorTree.totalSize_setLayout {α : Type} [Layout α] (t : DescriptorTree) (a : α) :
    ((t.setLayout a).totalSize : Int) - t.totalSize =
      (t.setLayout a).root.length.toNat - t.root.length.toNat := by
  have hchildren : (t.setLayout a).children = t.children := rfl
  rw [totalSize_eq, totalSize_eq t, hchildren, Descriptor.toNat_length, Descriptor.toNat_length]
  omega

/-! ## The five layouts -/

/-- The kinds of descriptor that hold a record. -/
inductive RecordKind
  | device | configuration | interface | endpoint | hid
  deriving DecidableEq, Repr

namespace RecordKind

abbrev Record : RecordKind → Type
  | device => DeviceDescriptor
  | configuration => ConfigurationDescriptor
  | interface => InterfaceDescriptor
  | endpoint => EndpointDescriptor
  | hid => HidDescriptor

instance : (k : RecordKind) → Layout k.Record
  | device => inferInstanceAs (Layout DeviceDescriptor)
  | configuration => inferInstanceAs (Layout ConfigurationDescriptor)
  | interface => inferInstanceAs (Layout InterfaceDescriptor)
  | endpoint => inferInstanceAs (Layout EndpointDescriptor)
  | hid => inferInstanceAs (Layout HidDescriptor)

instance : (k : RecordKind) → FixedLayout k.Record
  | device => inferInstanceAs (FixedLayout DeviceDescriptor)
  | configuration => inferInstanceAs (FixedLayout ConfigurationDescriptor)
  | interface => inferInstanceAs (FixedLayout InterfaceDescriptor)
  | endpoint => inferInstanceAs (FixedLayout EndpointDescriptor)
  | hid => inferInstanceAs (FixedLayout HidDescriptor)

def tag : RecordKind → UInt8
  | device => 0x01
  | configuration => 0x02
  | interface => 0x04
  | endpoint => 0x05
  | hid => 0x21

/-- The number of bytes of a record behind the header. -/
def payloadLength : RecordKind → Nat
  | device => 16
  | configuration | interface | hid => 7
  | endpoint => 5

variable {j k : RecordKind}

theorem kind_record : Layout.kind k.Record = k.tag := by
  cases k <;> rfl

theorem payloadLength_record : FixedLayout.payloadLength k.Record = k.payloadLength := by
  cases k <;> rfl

theorem tag_injective (h : j.tag = k.tag) : j = k := by
  revert h
  cases j <;> cases k <;> decide

/-- **Records and descriptors are turned into each other.** The descriptor of a record has the kind
and the length of its layout; the record is read back from it, and no record of another layout is.
From any descriptor a record is read just if the kind is that of the layout and the payload is long
enough, and it is written again as the start of that payload. A tree in which a record is set keeps
what stands below its top, and its size changes by as much as the length of the top does. -/
theorem codec_inverse (k : RecordKind) :
    (∀ a : k.Record,
      (DescriptorTree.ofLayout a).root.kind = k.tag ∧
      (DescriptorTree.ofLayout a).root.length.toNat = 2 + k.payloadLength ∧
      (DescriptorTree.ofLayout a).root.toBytes.length = 2 + k.payloadLength ∧
      (DescriptorTree.ofLayout a).decode? k.Record = some a ∧
      ∀ j : RecordKind, j ≠ k → (DescriptorTree.ofLayout a).decode? j.Record = none) ∧
    (∀ t : DescriptorTree,
      ((t.decode? k.Record).isSome ↔
        t.root.kind = k.tag ∧ k.payloadLength ≤ t.root.payload.length) ∧
      ∀ a : k.Record, t.decode? k.Record = some a →
        (DescriptorTree.ofLayout a).root.payload = t.root.payload.take k.payloadLength) ∧
    ∀ (a : k.Record) (t : DescriptorTree),
      (t.setLayout a).root = (DescriptorTree.ofLayout a).root ∧
      (t.setLayout a).children = t.children ∧
      ((t.setLayout a).totalSize : Int) - t.totalSize =
        (DescriptorTree.ofLayout a).root.length.toNat - t.root.length.toNat := by
  refine ⟨fun a => ?_, fun t => ⟨?_, fun a ha => ?_⟩, fun a t => ⟨rfl, rfl, ?_⟩⟩
  · have hsize : (Descriptor.ofLayout a).size = 2 + k.payloadLength := by
      rw [Descriptor.size_ofLayout, payloadLength_record]
    refine ⟨kind_record, ?_, hsize, Descriptor.decode?_ofLayout a, fun j hj => ?_⟩
    · exact (Descriptor.toNat_length _).trans hsize
    · refine Descriptor.decode?_of_kind_ne fun h => hj (tag_injective ?_)
      rw [← kind_record, ← h]
      exact kind_record
  · rw [← kind_record, ← payloadLength_record]
    exact Descriptor.isSome_decode?_iff t.root
  · rw [← payloadLength_record]
    exact Descriptor.payload_ofLayout_of_decode? ha
  · exact t.totalSize_setLayout a

/-- What follows the record in a longer payload is ignored. -/
example : (DescriptorTree.leaf ⟨0x05, [0x81, 3, 64, 1, 10, 7, 7], by decide⟩).decode?
    RecordKind.endpoint.Record = some ⟨0x81, 3, 320, 10⟩ := by decide

end RecordKind

end VirtualUsb
