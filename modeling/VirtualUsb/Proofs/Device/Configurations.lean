import Mathlib.Data.List.Forall2
import VirtualUsb.Proofs.Device.Edits

/-!
# Configurations of emulated devices

A device keeps the configurations that it is given, in order, and counts them in its descriptor.
Each is kept with the total length in it set right and is not changed otherwise
(`DescriptorTree.keeps_settled`); what is no configuration, or too short to say how long it is, is
kept as it is. Nothing else that is done to a device bears on this (`Emulated.Tallies.perform`), so
the descriptor of the device and its configurations stay in step (`Emulated.inStep_of_made`).
-/

namespace VirtualUsb

/-! ## One configuration -/

namespace DescriptorTree

/-- Whether a tree is kept as it should be: a configuration with its total length set right and
nothing else changed, and any other tree as it was given. -/
structure Keeps (given kept : DescriptorTree) : Prop where
  configuration : ∀ lo hi rest, given.root.kind = 0x02 → given.root.payload = lo :: hi :: rest →
    ∃ total : UInt16, total.toNat = min 65535 kept.toBytes.length ∧
      kept.root.kind = 0x02 ∧ kept.root.payload = Bytes.ofWord total ++ rest ∧
      kept.children = given.children
  other : given.root.kind ≠ 0x02 ∨ given.root.payload.length < 2 → kept = given

theorem toNat_claimedLength (t : DescriptorTree) :
    t.claimedLength.toNat = min 65535 t.totalSize := by
  unfold claimedLength
  rw [UInt16.toNat_ofNat_of_lt' (by have : UInt16.size = 65536 := rfl; omega), Nat.min_comm]

theorem totalSizeAll_replicate (n : Nat) (t : DescriptorTree) :
    totalSizeAll (List.replicate n t) = n * t.totalSize := by
  induction n with
  | zero => rw [Nat.zero_mul]; rfl
  | succ n ih => rw [List.replicate_succ, totalSizeAll, ih, Nat.succ_mul, Nat.add_comm]

theorem totalSize_leaf (d : Descriptor) : (leaf d).totalSize = d.payload.length + 2 := rfl

theorem keeps_settled (t : DescriptorTree) : t.Keeps t.settled where
  configuration lo hi rest hkind hpayload := by
    obtain ⟨hkind, hpayload, hchildren, hsize⟩ := settled_of_configuration hkind hpayload
    refine ⟨t.claimedLength, ?_, hkind, hpayload, hchildren⟩
    rw [toNat_claimedLength, length_toBytes, hsize]
  other h := settled_of_other h

end DescriptorTree

namespace Emulated

variable {σ : Type}

/-! ## What is done to a device -/

/-- One thing that is done to a device. Its owner adds any tree as a configuration, or a string,
sets the status or gives the device a peripheral; a guest makes a control transfer to it; or the bus
selects a configuration. -/
inductive Deed (σ : Type)
  | configuration (t : DescriptorTree)
  | string (text : String)
  | status (status : DeviceStatus)
  | peripheral (p : Peripheral σ)
  | control (setup : SetupPacket) (buffer : GuestBuffer) (v : Service) (s : σ)
  | select (value : UInt8)

def perform (d : Emulated σ) : Deed σ → Emulated σ
  | .configuration t => d.addConfiguration t
  | .string text => d.addString text
  | .status status => { d with status }
  | .peripheral p => { d with peripheral := some p }
  | .control setup buffer v s => (d.controlTransfer setup buffer v s).1
  | .select value => { d with state.configuration := value }

/-- What is added as a configuration. -/
def Deed.added : Deed σ → List DescriptorTree
  | .configuration t => [t]
  | _ => []

/-- Whether a device is new: made of a descriptor, or of settings, with the trees that were added to
it as configurations so far. -/
inductive Made : Emulated σ → DeviceDescriptor → List DescriptorTree → Prop
  | ofDescriptor (descriptor : DeviceDescriptor) (location : Location) :
    Made (.ofDescriptor descriptor location) descriptor []
  | ofSettings (settings : EmulatedSettings) (location : Location) :
    Made (settings.device location) settings.deviceDescriptor [settings.configuration]

/-! ## The tree of a device -/

/-- The descriptor of a device that was given a number of trees as configurations. It says how many
these are once there is one. -/
def counted (descriptor : DeviceDescriptor) (n : Nat) : DeviceDescriptor :=
  if n = 0 then descriptor else { descriptor with numConfigurations := UInt8.ofNat n }

theorem counted_succ (descriptor : DeviceDescriptor) (n : Nat) :
    { counted descriptor n with numConfigurations := UInt8.ofNat (n + 1) } =
      counted descriptor (n + 1) := by
  unfold counted
  rw [if_neg (Nat.succ_ne_zero n)]
  split <;> rfl

/-- Whether a device has the trees that it was given, and counts them. -/
structure Tallies (d : Emulated σ) (descriptor : DeviceDescriptor) (given : List DescriptorTree) :
    Prop where
  root : d.state.descriptors.root = .ofLayout (counted descriptor given.length)
  children : d.state.descriptors.children = given.map DescriptorTree.settled

variable {d : Emulated σ} {descriptor : DeviceDescriptor} {given : List DescriptorTree}

theorem Tallies.addConfiguration (h : d.Tallies descriptor given) (t : DescriptorTree) :
    (d.addConfiguration t).Tallies descriptor (given ++ [t]) := by
  have hroot : (d.state.descriptors.addChild t.settled).root =
      .ofLayout (counted descriptor given.length) := h.root
  have hchildren : (d.state.descriptors.addChild t.settled).children =
      (given ++ [t]).map DescriptorTree.settled := by
    show d.state.descriptors.children ++ [t.settled] = _
    rw [h.children, List.map_append]
    rfl
  have htree : (d.addConfiguration t).state.descriptors =
      (d.state.descriptors.addChild t.settled).setLayout
        { counted descriptor given.length with
          numConfigurations :=
            UInt8.ofNat (d.state.descriptors.addChild t.settled).children.length } :=
    countConfigurations_of_root hroot
  rw [hchildren, List.length_map, List.length_append, List.length_singleton,
    counted_succ] at htree
  refine ⟨?_, htree ▸ hchildren⟩
  rw [htree, List.length_append]
  rfl

/-- What is done to a device adds at most one tree, and leaves all others alone. -/
theorem Tallies.perform (h : d.Tallies descriptor given) (deed : Deed σ) :
    (d.perform deed).Tallies descriptor (given ++ deed.added) := by
  cases deed with
  | configuration t => exact h.addConfiguration t
  | control setup buffer v s =>
    obtain ⟨configuration, interface, hserve⟩ :=
      d.device_serve setup (v.dataStage setup.isIn (buffer.truncated setup.length.toNat)) s
    have htree : (d.controlTransfer setup buffer v s).1.state.descriptors =
        d.state.descriptors := congrArg (·.state.descriptors) hserve
    show (d.controlTransfer setup buffer v s).1.Tallies descriptor (given ++ [])
    rw [List.append_nil]
    exact ⟨htree ▸ h.root, htree ▸ h.children⟩
  | string | status | peripheral | select =>
    show Tallies _ descriptor (given ++ [])
    rw [List.append_nil]
    exact ⟨h.root, h.children⟩

theorem Tallies.foldl (h : d.Tallies descriptor given) (deeds : List (Deed σ)) :
    (deeds.foldl Emulated.perform d).Tallies descriptor (given ++ deeds.flatMap Deed.added) := by
  induction deeds generalizing d given with
  | nil =>
    rw [List.flatMap_nil, List.append_nil]
    exact h
  | cons deed rest ih =>
    rw [List.flatMap_cons, ← List.append_assoc]
    exact ih (h.perform deed)

theorem Made.tallies (h : d.Made descriptor given) : d.Tallies descriptor given := by
  have hnew (descriptor : DeviceDescriptor) (location : Location) :
      (Emulated.ofDescriptor descriptor location : Emulated σ).Tallies descriptor [] := ⟨rfl, rfl⟩
  cases h with
  | ofDescriptor descriptor location => exact hnew descriptor location
  | ofSettings settings location =>
    have h := (hnew settings.deviceDescriptor location).addConfiguration settings.configuration
    exact ⟨h.root, h.children⟩

/-! ## What a device answers -/

/-- A device asked for a configuration answers with its descriptor alone, or with nothing. -/
theorem descriptorAnswer_configuration (d : Emulated σ) (index : UInt8) :
    d.descriptorAnswer 0x02 index =
      (d.state.descriptors.children[index.toNat]?).elim [] (·.root.toBytes) := by
  unfold descriptorAnswer
  rw [if_neg (by decide), if_pos (by decide)]
  cases d.state.descriptors.children[index.toNat]? <;> rfl

theorem produces_configuration (d : Emulated σ) (index : UInt8) {out : Bytes} (hout : out ≠ []) :
    ∃ count, (d.serveStandard out (.getDescriptor 0x02 index)).count = some count ∧
      (0 < count ↔ index.toNat < d.state.descriptors.children.length) := by
  refine ⟨min (d.descriptorAnswer 0x02 index).length out.length, rfl, ?_⟩
  have hroom : 0 < out.length := List.length_pos_of_ne_nil hout
  rw [descriptorAnswer_configuration, Nat.lt_min, and_iff_left hroom]
  by_cases hindex : index.toNat < d.state.descriptors.children.length
  · rw [List.getElem?_eq_getElem hindex]
    exact iff_of_true (Nat.succ_pos _) hindex
  · rw [List.getElem?_eq_none (Nat.not_lt.1 hindex)]
    exact iff_of_false (Nat.lt_irrefl 0) hindex

/-- Whether the descriptor of a device and its configurations are in step with the trees that it was
given. -/
structure InStep (d : Emulated σ) (descriptor : DeviceDescriptor) (given : List DescriptorTree) :
    Prop where
  /-- The device says how many configurations there are, and otherwise what it said at first. -/
  counts : ∃ n : UInt8, n.toNat = given.length ∧
    d.state.descriptors.decode? DeviceDescriptor = some { descriptor with numConfigurations := n }
  kept : List.Forall₂ DescriptorTree.Keeps given d.state.descriptors.children
  answers : ∀ (index : UInt8) (c : DescriptorTree),
    d.state.descriptors.children[index.toNat]? = some c → d.Answers 0x02 index c.root.toBytes
  produces : ∀ (index : UInt8) (out : Bytes), out ≠ [] →
    ∃ count, (d.serveStandard out (.getDescriptor 0x02 index)).count = some count ∧
      (0 < count ↔ index.toNat < given.length)

theorem Tallies.inStep (h : d.Tallies descriptor given) (hsome : given ≠ [])
    (hfew : given.length ≤ 255) : d.InStep descriptor given where
  counts := by
    refine ⟨UInt8.ofNat given.length, ?_, ?_⟩
    · exact UInt8.toNat_ofNat_of_lt' (Nat.lt_of_le_of_lt hfew (by decide))
    · have hcounted : counted descriptor given.length =
          { descriptor with numConfigurations := UInt8.ofNat given.length } :=
        if_neg fun hlen => hsome (List.length_eq_zero_iff.1 hlen)
      rw [← hcounted, DescriptorTree.decode?, h.root]
      exact Descriptor.decode?_ofLayout _
  kept := by
    rw [h.children, List.forall₂_map_right_iff, List.forall₂_same]
    exact fun t _ => t.keeps_settled
  answers index c hc := by
    have hanswer := d.answers_descriptorAnswer 0x02 index
    rw [descriptorAnswer_configuration, hc] at hanswer
    exact hanswer
  produces index out hout := by
    have hproduces := d.produces_configuration index hout
    rw [h.children, List.length_map] at hproduces
    exact hproduces

/-- **Devices count their configurations and keep them as they were given.** Whatever is done to a
device from the time it is made on, with one to 255 trees added to it as configurations, it says in
its descriptor how many these are, and nothing else of that descriptor changes. Asked for a
configuration it answers from the tree with that number, if there is one, and only then. A tree is
kept as it was given but for its total length, which is set to the number of bytes of the tree or
the largest word if it is a configuration that has a whole length field. -/
theorem inStep_of_made (hd : d.Made descriptor given) (deeds : List (Deed σ))
    (hsome : given ++ deeds.flatMap Deed.added ≠ [])
    (hfew : (given ++ deeds.flatMap Deed.added).length ≤ 255) :
    (deeds.foldl Emulated.perform d).InStep descriptor (given ++ deeds.flatMap Deed.added) :=
  (hd.tallies.foldl deeds).inStep hsome hfew

/-- A configuration that is longer than its length field can say. -/
def overlong : DescriptorTree :=
  .node ⟨0x02, [1, 2, 1, 1, 0, 0x80, 50], by decide⟩
    (List.replicate 260 (.leaf ⟨0x24, List.replicate 253 0, by rw [List.length_replicate]⟩))

/-- An interface, which is no configuration. -/
def stray : DescriptorTree := .leaf ⟨0x04, [0, 0], by decide⟩

/-- Two trees are added to a device, of which it is not said at first how many there are. -/
def addings : List (Deed Unit) :=
  [.string "a", .configuration overlong, .control ⟨0x00, 0x09, 7, 0, 0⟩ ⟨0, 0⟩
    ⟨default, .blank 8, {}, 0, 0, none⟩ (), .configuration stray, .status { selfPowered := true }]

/-- The device says that there are two. The first says the largest length that it can say, and the
second is answered as it was added. -/
theorem inStep_of_addings :
    let d : Emulated Unit := addings.foldl perform
      (ofDescriptor { vendorId := 0x1430, numConfigurations := 9 } default)
    d.state.descriptors.decode? DeviceDescriptor =
        some { vendorId := 0x1430, numConfigurations := 2 } ∧
      d.Answers 0x02 0 [9, 2, 255, 255, 1, 1, 0, 0x80, 50] ∧ d.Answers 0x02 1 [4, 4, 0, 0] ∧
      (d.serveStandard [0] (.getDescriptor 0x02 2)).count = some 0 := by
  intro d
  obtain ⟨⟨n, hn, hdevice⟩, hkept, hanswers, hproduces⟩ :
      d.InStep { vendorId := 0x1430, numConfigurations := 9 } [overlong, stray] :=
    inStep_of_made (.ofDescriptor _ default) addings (List.cons_ne_nil overlong _) (by decide)
  obtain ⟨first, rest, hfirst, hrest, hchildren⟩ := List.forall₂_cons_left_iff.1 hkept
  obtain ⟨second, rest, hsecond, hnil, rfl⟩ := List.forall₂_cons_left_iff.1 hrest
  obtain rfl := List.forall₂_nil_left_iff.1 hnil
  obtain rfl : n = 2 := UInt8.toNat_inj.1 hn
  obtain rfl : second = stray := hsecond.other (.inl (by decide))
  refine ⟨hdevice, ?_, hanswers 1 stray (by rw [hchildren]; rfl), ?_⟩
  · have hanswer := hanswers 0 first (by rw [hchildren]; rfl)
    obtain ⟨total, htotal, hkind, hpayload, hbelow⟩ := hfirst.configuration 1 2 _ rfl rfl
    obtain ⟨⟨kind, payload, hle⟩, ts⟩ := first
    obtain rfl : kind = 0x02 := hkind
    obtain rfl : payload = _ := hpayload
    obtain rfl : ts = _ := hbelow
    have hsize : (DescriptorTree.node ⟨0x02, Bytes.ofWord total ++ [1, 1, 0, 0x80, 50], hle⟩
        overlong.children).totalSize = 66309 := by
      rw [DescriptorTree.totalSize_eq]
      show 9 + DescriptorTree.totalSizeAll (List.replicate 260 _) = _
      rw [DescriptorTree.totalSizeAll_replicate, DescriptorTree.totalSize_leaf]
      dsimp only
      rw [List.length_replicate]
    rw [DescriptorTree.length_toBytes, hsize] at htotal
    obtain rfl : total = 65535 := UInt16.toNat_inj.1 htotal
    exact hanswer
  · obtain ⟨count, hcount, hiff⟩ := hproduces 2 [0] (List.cons_ne_nil 0 _)
    have hzero : count = 0 := Nat.eq_zero_of_not_pos (mt hiff.1 (by decide))
    rw [← hzero]
    exact hcount

end Emulated

end VirtualUsb
