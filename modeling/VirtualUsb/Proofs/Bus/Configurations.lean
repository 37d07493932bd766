import VirtualUsb.Proofs.Device.Readings
import VirtualUsb.Proofs.Transfer.Submission
import VirtualUsb.Proofs.Wire.Reading

/-!
# Which configuration a guest is given

The configurations of a device of the host are those of one reading that could be parsed, in order,
so a place in their row is no index. The configuration given for an index stands in the reply to the
request for another one, unless every request up to that index gave a configuration
(`Scene.configuration_of_reached`).
-/

namespace VirtualUsb

/-! ## Places in a filtered row -/

section

variable {α β : Type} {l : List α} {f : α → Option β} {i j : Nat} {a : α} {b : β}

/-- What stands at a place of a filtered row comes from where that many were kept before. -/
theorem exists_place_of_getElem?_filterMap (h : (l.filterMap f)[i]? = some b) :
    ∃ j a, l[j]? = some a ∧ f a = some b ∧ ((l.take j).filterMap f).length = i := by
  induction l generalizing i with
  | nil => exact nomatch h
  | cons x rest ih =>
    cases hx : f x with
    | none =>
      rw [List.filterMap_cons_none hx] at h
      obtain ⟨j, a, hj, ha, hcount⟩ := ih h
      exact ⟨j + 1, a, hj, ha, by rw [List.take_succ_cons, List.filterMap_cons_none hx, hcount]⟩
    | some y =>
      rw [List.filterMap_cons_some hx] at h
      cases i with
      | zero => exact ⟨0, x, rfl, hx.trans h, rfl⟩
      | succ i =>
        obtain ⟨j, a, hj, ha, hcount⟩ := ih h
        refine ⟨j + 1, a, hj, ha, ?_⟩
        rw [List.take_succ_cons, List.filterMap_cons_some hx, List.length_cons, hcount]

/-- It comes from the same place just if all up to that place were kept. -/
theorem place_eq_iff (hj : l[j]? = some a) (ha : f a = some b)
    (hcount : ((l.take j).filterMap f).length = i) :
    j = i ↔ ∀ x ∈ l.take (i + 1), (f x).isSome = true := by
  have hlt := (List.getElem?_eq_some_iff.1 hj).1
  constructor
  · rintro rfl
    have hall : ∀ x ∈ l.take j, (f x).isSome = true := by
      rw [← List.filterMap_length_eq_length, hcount, List.length_take,
        Nat.min_eq_left (Nat.le_of_lt hlt)]
    rw [List.take_add_one, hj, Option.toList_some]
    intro x hx
    rcases List.mem_append.1 hx with hx | hx
    · exact hall x hx
    · rw [List.mem_singleton.1 hx, ha]
      rfl
  · intro hall
    have hle : i ≤ j := by
      have := List.length_filterMap_le f (l.take j)
      rw [hcount, List.length_take] at this
      omega
    rcases Nat.eq_or_lt_of_le hle with e | hij
    · exact e.symm
    · -- all of the first `i + 1` are kept, and they stand before place `j`
      have hkept := List.filterMap_length_eq_length.2 hall
      have hpre : l.take (i + 1) <+: l.take j := List.take_prefix_take_left hij
      have hlen := (hpre.filterMap f).length_le
      rw [hcount, hkept, List.length_take] at hlen
      omega

end

/-! ## Rosters -/

/-- Whether a call brings no device that knows anything yet or has a part in what passes between the
bus and its host, and leaves the transcript of it as it is when the world moves on. -/
def Operation.RespectsTranscript {σ : Type} (tr : Transcript) : Operation (σ × Transcript) → Prop
  | .attach d => d.VouchedBy []
  | .elapse world => world.2 = tr
  | _ => True

namespace Roster

variable {σ : Type} {host : Host σ} {op : Operation (σ × Transcript)} {tr tr' : Transcript}

/-- Whether a transcript bears out what the devices of a roster know. -/
def VouchedBy (r : Roster (σ × Transcript)) (tr : Transcript) : Prop :=
  ∀ key d, r.get? key = some d → d.VouchedBy tr

theorem VouchedBy.added {x y : Roster (σ × Transcript) × σ × Transcript}
    (hx : x.1.VouchedBy x.2.2) (hm : Move host.transcribed op x y) : x.2.2 <:+ y.2.2 := by
  cases hm with
  | perform call hcall hd => exact (Device.sound_perform host (hx _ _ hd) hcall.ofBus).added
  | discard => exact (Device.transcript_discard host _ _).symm ▸ List.suffix_rfl
  | enroll => exact List.suffix_rfl

theorem VouchedBy.move {x y : Roster (σ × Transcript) × σ × Transcript} (hx : x.1.VouchedBy x.2.2)
    (hop : op.RespectsTranscript tr) (hm : Move host.transcribed op x y) :
    y.1.VouchedBy y.2.2 := by
  intro key d hd
  rcases hm.origin hd with hd₀ | ⟨d₀, call, hd₀, hcall, e⟩ | ⟨-, rfl⟩
  · exact (hx key d hd₀).mono (hx.added hm)
  · have hsound := Device.sound_perform host (hx key d₀ hd₀) hcall.ofBus
    rw [e] at hsound
    exact hsound.vouched
  · exact Device.VouchedBy.mono hop List.nil_suffix

end Roster

/-! ## Runs -/

theorem Bus.readAt_of_knownDevice {σ : Type} (host : Host σ) {b : Bus σ} (s : σ)
    {location : Location} {key : DeviceKey} {d : Device σ}
    (hd : b.knownDevice location = some (key, d)) :
    b.readAt host location s = (some (d.readDescriptors host s).1,
      b.withDevice key (d.readDescriptors host s).1, (d.readDescriptors host s).2) := by
  unfold readAt
  rw [hd]

theorem Bus.readDescriptors_of_configDescriptor {σ : Type} {host : Host σ} {b : Bus σ} {s : σ}
    {location : Location} {key : DeviceKey} {d : Device σ} {index : UInt8} {bytes : Bytes}
    (hd : b.knownDevice location = some (key, d))
    (hok : (b.configDescriptor host location index s).1 = .ok bytes) :
    (b.configDescriptor host location index s).2.2 = (d.readDescriptors host s).2 ∧
      ∃ t, (d.readDescriptors host s).1.state.descriptors.children[index.toNat]? = some t ∧
        bytes = t.toBytes := by
  unfold configDescriptor at hok ⊢
  rw [readAt_of_knownDevice host s hd] at hok ⊢
  dsimp only at hok ⊢
  split at hok
  · exact nomatch hok
  · rename_i t ht
    rw [ht]
    exact ⟨rfl, t, rfl, (Except.ok.inj hok).symm⟩

namespace Scene

variable {σ : Type} {host : Host σ} {c : Scene (σ × Transcript)}

theorem Reached.vouched {n : Nat} {latency : UInt64} {memory : Memory} {world : σ}
    (h : Reached host.transcribed (fun c op => op.RespectsTranscript c.world.2)
      ⟨Bus.empty n latency memory, (world, []), []⟩ c) : c.bus.roster.VouchedBy c.world.2 := by
  refine h.moves (P := fun x => x.1.VouchedBy x.2.2) (fun _ _ hd => nomatch hd) ?_ ?_
  · intro c op hop x y hm hx
    exact hx.move hop hm
  · intro c world hop hx
    have hop : world.2 = c.world.2 := hop
    show c.bus.roster.VouchedBy world.2
    rw [hop]
    exact hx

/-- **Which configuration is given for an index.** Whatever calls were made of a new bus and
whatever its host answered, the configuration that a guest is given of a device of the host was read
from one of the replies to a row of requests, one for each index. Just `index` of the replies before
it gave a configuration as well, so it is the reply for `index` if and only if all replies up to
that one gave one. -/
theorem configuration_of_reached {n : Nat} {latency : UInt64} {memory : Memory} {world : σ}
    (h : Reached host.transcribed (fun c op => op.RespectsTranscript c.world.2)
      ⟨Bus.empty n latency memory, (world, []), []⟩ c) {location : Location} {key : DeviceKey}
    {p : Passthrough} (hp : c.bus.knownDevice location = some (key, .passthrough p))
    {index : UInt8} {bytes : Bytes}
    (hok : (c.bus.configDescriptor host.transcribed location index c.world).1 = .ok bytes) :
    ∃ (replies : List (Option Bytes)) (k : UInt8) (reply : Option Bytes) (t : DescriptorTree),
      (c.bus.configDescriptor host.transcribed location index c.world).2.2.2.Reading p.device.id
        replies ∧
      (c.bus.configDescriptor host.transcribed location index c.world).2.2.2.Gave p.device.id k
        reply ∧
      replies[k.toNat]? = some reply ∧ Configuration.ofReply reply = some t ∧ bytes = t.toBytes ∧
      ((replies.take k.toNat).filterMap Configuration.ofReply).length = index.toNat ∧
      (k = index ↔ ∀ reply ∈ replies.take (index.toNat + 1),
        (Configuration.ofReply reply).isSome = true) := by
  have hv : p.VouchedBy c.world.2 := h.vouched key (.passthrough p) (Bus.roster_of_knownDevice hp)
  obtain ⟨hworld, t, ht, hbytes⟩ := Bus.readDescriptors_of_configDescriptor hp hok
  change (p.readDescriptors host.transcribed c.world).1.state.descriptors.children[index.toNat]? =
    some t at ht
  obtain ⟨-, hread⟩ := Passthrough.sound_readDescriptors host hv
  have hdevice : (p.readDescriptors host.transcribed c.world).1.device = p.device :=
    congrArg (·.1.2) (p.stance_readDescriptors host.transcribed c.world)
  rw [hworld]
  rcases hread.read with hnone | ⟨replies, hreading, hchildren⟩
  · rw [hnone] at ht
    exact nomatch ht
  · rw [hchildren] at ht
    rw [hdevice] at hreading
    obtain ⟨j, reply, hj, hreply, hcount⟩ := exists_place_of_getElem?_filterMap ht
    have hk : (UInt8.ofNat j).toNat = j := by
      have := (List.getElem?_eq_some_iff.1 hj).1
      exact UInt8.toNat_ofNat_of_lt (Nat.lt_trans this hreading.1)
    have hplace : replies[(UInt8.ofNat j).toNat]? = some reply := hk.symm ▸ hj
    refine ⟨replies, UInt8.ofNat j, reply, t, hreading, hreading.gave hplace, hplace, hreply,
      hbytes, ?_, ?_⟩
    · rw [hk]
      exact hcount
    · rw [← place_eq_iff hj hreply hcount, ← UInt8.toNat_inj, hk]

end Scene

/-! ## A request that failed -/

/-- A configuration with nothing below it. -/
def bareConfiguration (value : UInt8) : DescriptorTree :=
  .ofLayout ({ value } : ConfigurationDescriptor)

/-- A host that gets no answer when it asks a device for its first configuration. -/
def Host.faltering : Host Unit :=
  { Host.obliging with
    controlSync _ setup _ _ s :=
      if Bytes.low setup.value = 0 then (.error .timeout, s)
      else (.ok (9, (bareConfiguration 2).toBytes), s) }

/-- A device of the host that has two configurations. -/
def Passthrough.twofold : Passthrough :=
  .idle { id := 20, descriptor := { numConfigurations := 2 } }

namespace Scene

open Host (faltering)
open Passthrough (twofold)

/-- A new bus to which the device with two configurations was attached. -/
def offered : Scene (Unit × Transcript) :=
  Scene.after faltering.transcribed ⟨Bus.empty 2 0 (.blank 16), ((), []), []⟩
    (.attach (.passthrough twofold))

theorem reached_offered :
    Reached faltering.transcribed (fun c op => op.RespectsTranscript c.world.2)
      ⟨Bus.empty 2 0 (.blank 16), ((), []), []⟩ offered :=
  Reached.first.after (.attach (.passthrough twofold)) ⟨nofun, .inl rfl⟩

theorem configDescriptor_offered :
    (offered.bus.configDescriptor faltering.transcribed default 0 offered.world).1 =
        .ok (bareConfiguration 2).toBytes ∧
      (offered.bus.configDescriptor faltering.transcribed default 0 offered.world).2.2.2 =
        [.askedConfiguration 1 1 (some (bareConfiguration 2).toBytes),
          .askedConfiguration 1 0 none, .opened 20 1] := by
  decide +kernel

/-- What the guest is given for the first index comes from the reading that failed once. -/
theorem configuration_of_faltering :
    ∃ (replies : List (Option Bytes)) (k : UInt8) (reply : Option Bytes) (t : DescriptorTree),
      (offered.bus.configDescriptor faltering.transcribed default 0 offered.world).2.2.2.Reading 20
        replies ∧
      (offered.bus.configDescriptor faltering.transcribed default 0 offered.world).2.2.2.Gave 20 k
        reply ∧
      replies[k.toNat]? = some reply ∧ Configuration.ofReply reply = some t ∧
      (bareConfiguration 2).toBytes = t.toBytes := by
  obtain ⟨replies, k, reply, t, hreading, hgave, hk, hreply, hbytes, -⟩ :=
    configuration_of_reached reached_offered (p := twofold) rfl configDescriptor_offered.1
  exact ⟨replies, k, reply, t, hreading, hgave, hk, hreply, hbytes⟩

/-- The guest is given a configuration for the first index, but the device gave it when it was asked
for the second one, and gave none when it was asked for the first. -/
theorem configuration_of_another_index :
    Reached faltering.transcribed (fun c op => op.RespectsTranscript c.world.2)
        ⟨Bus.empty 2 0 (.blank 16), ((), []), []⟩ offered ∧
      offered.bus.knownDevice default = some (⟨0⟩, .passthrough twofold) ∧
      (offered.bus.configDescriptor faltering.transcribed default 0 offered.world).1 =
        .ok (bareConfiguration 2).toBytes ∧
      (offered.bus.configDescriptor faltering.transcribed default 0 offered.world).2.2.2.Gave 20 1
        (some (bareConfiguration 2).toBytes) ∧
      ∀ reply, (offered.bus.configDescriptor faltering.transcribed default 0
        offered.world).2.2.2.Gave 20 0 reply → reply = none := by
  obtain ⟨hok, htr⟩ := configDescriptor_offered
  rw [htr]
  refine ⟨reached_offered, rfl, hok, ?_, fun reply hgave => ?_⟩
  · exact ⟨1, _, List.mem_cons_of_mem _ List.mem_cons_self, List.suffix_rfl⟩
  obtain ⟨handle, hmem⟩ := hgave.mem
  rcases List.mem_cons.1 hmem with e | hmem
  · exact nomatch (Exchange.askedConfiguration_inj e).2.1
  · rcases List.mem_cons.1 hmem with e | hmem
    · exact (Exchange.askedConfiguration_inj e).2.2
    · exact nomatch List.mem_singleton.1 hmem

end Scene

end VirtualUsb
