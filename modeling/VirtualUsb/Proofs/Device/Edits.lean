import Mathlib.Logic.Relation
import VirtualUsb.Proofs.Device.Identity
import VirtualUsb.Proofs.Settings.Construction
import VirtualUsb.Proofs.Wire.Strings

/-!
# Changes to emulated devices

The owner of an emulated device adds strings and configurations to it, and guests make requests of
it (`Emulated.Edit`). All the while configurations and nothing else stand below the descriptor of
the device (`Emulated.Built.isDevice`), and no string goes away (`Emulated.Edits.strings_prefix`).
So what a device answers to GET_DESCRIPTOR is empty or one whole descriptor of the kind asked for
(`Emulated.Built.isDescriptor_described`), of which it writes as much as there is room for
(`Emulated.answers_described`).
-/

namespace VirtualUsb

/-! ## Whole descriptors -/

/-- Whether some bytes are one descriptor of a kind, just as long as its length byte says. -/
def Bytes.IsDescriptor (kind : UInt8) (bytes : Bytes) : Prop :=
  ∃ length payload, bytes = length :: kind :: payload ∧ length.toNat = bytes.length

theorem Bytes.IsDescriptor.length_le {kind : UInt8} {bytes : Bytes} (h : bytes.IsDescriptor kind) :
    bytes.length ≤ 255 := by
  obtain ⟨length, payload, -, hlength⟩ := h
  have := length.toNat_lt
  omega

theorem Descriptor.isDescriptor_toBytes (d : Descriptor) : d.toBytes.IsDescriptor d.kind :=
  ⟨d.length, d.payload, rfl, d.toNat_length⟩

namespace StringDescriptor

theorem isDescriptor_ofText (text : String) : (ofText text).IsDescriptor DescriptorKind.string := by
  obtain ⟨length, payload, htext, hencodes⟩ := encodes_ofText text
  exact ⟨length, payload, htext, htext ▸ hencodes.whole⟩

theorem isDescriptor_languages : languages.IsDescriptor DescriptorKind.string :=
  ⟨4, [0x09, 0x04], rfl, rfl⟩

end StringDescriptor

/-! ## Trees of devices -/

namespace DescriptorTree

variable {t c : DescriptorTree}

/-- Whether a tree is that of a device: configurations and nothing else stand directly below the
descriptor of a device. -/
structure IsDevice (t : DescriptorTree) : Prop where
  root : t.root.kind = DescriptorKind.device
  children : ∀ c ∈ t.children, c.root.kind = DescriptorKind.configuration

theorem IsDevice.addChild (h : t.IsDevice) (hc : c.root.kind = DescriptorKind.configuration) :
    (t.addChild c).IsDevice := by
  refine ⟨h.root, fun u hu => ?_⟩
  rcases List.mem_append.1 hu with hu | hu
  · exact h.children u hu
  · rw [List.mem_singleton.1 hu]
    exact hc

/-- Another descriptor of a device may take the place of the topmost one. -/
theorem IsDevice.countConfigurations (h : t.IsDevice) :
    (Emulated.countConfigurations t).IsDevice := by
  unfold Emulated.countConfigurations
  split
  · exact ⟨rfl, h.children⟩
  · exact h

/-- A tree as a device keeps it: a configuration has its total length set right. -/
def settled (t : DescriptorTree) : DescriptorTree := t.withTotalLength?.getD t

/-- Only a configuration that has a whole length field is changed. -/
theorem settled_of_other (h : t.root.kind ≠ DescriptorKind.configuration ∨
    t.root.payload.length < 2) : t.settled = t := by
  obtain ⟨⟨kind, _ | ⟨lo, _ | ⟨hi, rest⟩⟩, hle⟩, ts⟩ := t
  · rfl
  · rfl
  · have hkind : kind ≠ DescriptorKind.configuration :=
      h.resolve_right (Nat.not_lt.2 (Nat.le_of_ble_eq_true rfl))
    show Option.getD (if kind = DescriptorKind.configuration then _ else none) _ = _
    rw [if_neg hkind]
    rfl

/-- The total length is written over the first two bytes of the payload. -/
theorem settled_of_configuration {lo hi : UInt8} {rest : Bytes}
    (hkind : t.root.kind = DescriptorKind.configuration)
    (hpayload : t.root.payload = lo :: hi :: rest) :
    t.settled.root.kind = DescriptorKind.configuration ∧
      t.settled.root.payload = Bytes.ofWord t.claimedLength ++ rest ∧
      t.settled.children = t.children ∧ t.settled.totalSize = t.totalSize := by
  obtain ⟨⟨kind, payload, hle⟩, ts⟩ := t
  obtain rfl : kind = DescriptorKind.configuration := hkind
  obtain rfl : payload = lo :: hi :: rest := hpayload
  exact ⟨rfl, rfl, rfl, rfl⟩

theorem kind_settled (t : DescriptorTree) : t.settled.root.kind = t.root.kind := by
  by_cases hkind : t.root.kind = DescriptorKind.configuration
  · match hpayload : t.root.payload with
    | [] | [_] => rw [settled_of_other (.inr (by rw [hpayload]; exact Nat.le_of_ble_eq_true rfl))]
    | _ :: _ :: _ => rw [(settled_of_configuration hkind hpayload).1, hkind]
  · rw [settled_of_other (.inl hkind)]

end DescriptorTree

namespace Emulated

variable {σ : Type} {d e : Emulated σ}

/-! ## Edits -/

/-- One change to an emulated device. Its owner gives it a peripheral, one more string or
configuration or another status, a guest makes a control request of it, or the bus selects a
configuration. -/
inductive Edit : Emulated σ → Emulated σ → Prop
  | peripheral (d : Emulated σ) (p : Peripheral σ) : Edit d { d with peripheral := some p }
  | string (d : Emulated σ) (text : String) : Edit d (d.addString text)
  | configuration (d : Emulated σ) (t : DescriptorTree)
      (ht : t.root.kind = DescriptorKind.configuration) : Edit d (d.addConfiguration t)
  | status (d : Emulated σ) (status : DeviceStatus) : Edit d { d with status }
  | request (d : Emulated σ) (setup : SetupPacket) (data : Bytes) (s : σ) :
    Edit d (d.serve setup data s).1.device
  | select (d : Emulated σ) (value : UInt8) : Edit d { d with state.configuration := value }

abbrev Edits : Emulated σ → Emulated σ → Prop := Relation.ReflTransGen Edit

/-- Whether a device was made of a descriptor or of settings and edited since. -/
inductive Built : Emulated σ → Prop
  | ofDescriptor (descriptor : DeviceDescriptor) (location : Location) {d : Emulated σ}
      (h : (Emulated.ofDescriptor descriptor location).Edits d) : Built d
  | ofSettings (settings : EmulatedSettings) (location : Location) {d : Emulated σ}
      (h : (settings.device location).Edits d) : Built d

theorem Built.edit (h : d.Built) (he : d.Edit e) : e.Built := by
  cases h with
  | ofDescriptor descriptor location h => exact .ofDescriptor descriptor location (h.tail he)
  | ofSettings settings location h => exact .ofSettings settings location (h.tail he)

theorem Edit.isDevice (h : d.Edit e) (hd : d.state.descriptors.IsDevice) :
    e.state.descriptors.IsDevice := by
  cases h with
  | configuration t ht =>
    exact (hd.addChild (t.kind_settled.trans ht)).countConfigurations
  | request setup data s =>
    obtain ⟨configuration, interface, he⟩ := d.device_serve setup data s
    rw [he]
    exact hd
  | peripheral | string | status | select => exact hd

theorem Edits.isDevice (h : d.Edits e) (hd : d.state.descriptors.IsDevice) :
    e.state.descriptors.IsDevice := by
  induction h with
  | refl => exact hd
  | tail _ he ih => exact he.isDevice ih

theorem Built.isDevice (h : d.Built) : d.state.descriptors.IsDevice := by
  have hnew (descriptor : DeviceDescriptor) (location : Location) :
      (Emulated.ofDescriptor descriptor location : Emulated σ).state.descriptors.IsDevice :=
    ⟨rfl, fun _ hc => nomatch hc⟩
  cases h with
  | ofDescriptor descriptor location h => exact h.isDevice (hnew descriptor location)
  | ofSettings settings location h =>
    -- settings make a new device to which one configuration is added
    exact h.isDevice ((Edit.configuration _ settings.configuration rfl).isDevice
      (hnew settings.deviceDescriptor location))

theorem Edit.strings_prefix (h : d.Edit e) : d.strings <+: e.strings := by
  cases h with
  | string text => exact List.prefix_append d.strings [text]
  | request setup data s =>
    obtain ⟨configuration, interface, he⟩ := d.device_serve setup data s
    exact he ▸ List.prefix_rfl
  | peripheral | configuration | status | select => exact List.prefix_rfl

/-- Strings are added behind those that are there, and none is changed. -/
theorem Edits.strings_prefix (h : d.Edits e) : d.strings <+: e.strings := by
  induction h with
  | refl => exact List.prefix_rfl
  | tail _ he ih => exact ih.trans he.strings_prefix

/-! ## Answers -/

variable (d) (kind index : UInt8)

/-- Whether a device answers GET_DESCRIPTOR with some bytes: it writes as many of them as there is
room for, says how many these are, and leaves what is behind them as it was. -/
def Answers (answer : Bytes) : Prop :=
  ∀ out : Bytes, d.serveStandard out (.getDescriptor kind index) =
    ⟨some (min out.length answer.length),
      answer.take (min out.length answer.length) ++ out.drop (min out.length answer.length), d⟩

/-- What a device writes into 255 bytes as the answer to GET_DESCRIPTOR. -/
def described : Bytes :=
  let o := d.serveStandard (List.replicate 255 0) (.getDescriptor kind index)
  o.data.take (o.count.getD 0)

theorem overlay_eq_of_min (out answer : Bytes) : Bytes.overlay out answer =
    answer.take (min out.length answer.length) ++ out.drop (min out.length answer.length) := by
  unfold Bytes.overlay
  rcases Nat.le_total out.length answer.length with h | h
  · rw [Nat.min_eq_left h, List.drop_eq_nil_of_le h, List.drop_length]
  · rw [Nat.min_eq_right h, List.take_of_length_le h, List.take_length]

theorem answers_descriptorAnswer : d.Answers kind index (d.descriptorAnswer kind index) := by
  intro out
  rw [← overlay_eq_of_min, Nat.min_comm]
  rfl

/-- An answer is empty or one whole descriptor, of the kind asked for if the tree of the device is
as it should be. -/
theorem descriptorAnswer_cases : d.descriptorAnswer kind index = [] ∨
    ∃ k, (d.descriptorAnswer kind index).IsDescriptor k ∧
      (d.state.descriptors.IsDevice → k = kind) := by
  unfold descriptorAnswer
  split
  · rename_i hkind
    exact .inr ⟨_, Descriptor.isDescriptor_toBytes _, fun h => h.root.trans hkind.symm⟩
  · split
    · rename_i hkind
      split
      · rename_i c hc
        refine .inr ⟨_, Descriptor.isDescriptor_toBytes _, fun h => ?_⟩
        exact (h.children c (List.mem_of_getElem? hc)).trans hkind.symm
      · exact .inl rfl
    · split
      · rename_i hkind
        split
        · exact .inr ⟨_, StringDescriptor.isDescriptor_languages, fun _ => hkind.symm⟩
        · split
          · exact .inr ⟨_, StringDescriptor.isDescriptor_ofText _, fun _ => hkind.symm⟩
          · exact .inl rfl
      · exact .inl rfl

theorem length_descriptorAnswer_le : (d.descriptorAnswer kind index).length ≤ 255 := by
  rcases d.descriptorAnswer_cases kind index with h | ⟨k, h, -⟩
  · rw [h]
    exact Nat.zero_le _
  · exact h.length_le

variable {kind index}

/-- There is room for every answer in 255 bytes. -/
theorem Answers.described_eq {answer : Bytes} (h : d.Answers kind index answer)
    (hlen : answer.length ≤ 255) : d.described kind index = answer := by
  have hmin : min (List.replicate 255 (0 : UInt8)).length answer.length = answer.length := by
    rw [List.length_replicate]
    exact Nat.min_eq_right hlen
  unfold described
  rw [h, hmin, List.take_length]
  exact List.take_left

variable (kind index)

theorem described_eq : d.described kind index = d.descriptorAnswer kind index :=
  Answers.described_eq d (d.answers_descriptorAnswer kind index)
    (d.length_descriptorAnswer_le kind index)

theorem answers_described : d.Answers kind index (d.described kind index) := by
  rw [d.described_eq]
  exact d.answers_descriptorAnswer kind index

variable {d}

theorem Built.isDescriptor_described (h : d.Built) :
    d.described kind index = [] ∨ (d.described kind index).IsDescriptor kind := by
  rw [d.described_eq]
  refine (d.descriptorAnswer_cases kind index).imp_right fun ⟨k, hk, hkind⟩ => ?_
  obtain rfl := hkind h.isDevice
  exact hk

/-- A string is found by its number for as long as there is the device. -/
theorem Edits.answers_string (h : d.Edits e) {index : UInt8} {text : String} (hindex : index ≠ 0)
    (htext : d.strings[index.toNat - 1]? = some text) :
    e.Answers DescriptorKind.string index (StringDescriptor.ofText text) := by
  have hlt := (List.getElem?_eq_some_iff.1 htext).1
  obtain ⟨more, hmore⟩ := h.strings_prefix
  have hlater : e.strings[index.toNat - 1]? = some text := by
    rw [← hmore, List.getElem?_append_left hlt]
    exact htext
  rw [← descriptorAnswer_string hindex hlater]
  exact e.answers_descriptorAnswer DescriptorKind.string index

end Emulated

end VirtualUsb
