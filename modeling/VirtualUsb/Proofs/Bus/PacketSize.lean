import VirtualUsb.Proofs.Bus.Configurations
import VirtualUsb.Proofs.Bus.Selection
import VirtualUsb.Proofs.Wire.Scan

/-!
# Packet sizes in what a device sent

The packet size of an endpoint is looked up in the active configuration of a device, which is one of
the trees that its descriptors were read into. It can be found without any tree: the active
configuration was read from one of the replies of the device (`Configuration.activeReply`), and the
endpoint from the bytes of that reply (`Scene.packetSize_of_reached`).
-/

namespace VirtualUsb

namespace Configuration

/-- The reply behind the active configuration: of those that are a configuration the first with the
selected value, or else the first of all. -/
def activeReply (replies : List (Option Bytes)) (value : UInt8) : Option Bytes :=
  let sent := replies.filterMap id
  (sent.find? fun bytes => (parse bytes).any (DeviceState.hasValue value)).or
    (sent.find? fun bytes => (parse bytes).isSome)

variable {replies : List (Option Bytes)} {value : UInt8}

theorem exists_parse_of_find?_any {sent : List Bytes} {bytes : Bytes} {p : DescriptorTree → Bool}
    (h : (sent.find? fun bytes => (parse bytes).any p) = some bytes) :
    ∃ t, parse bytes = some t := by
  have hany : (parse bytes).any p = true := by simpa only using List.find?_some h
  exact Option.isSome_iff_exists.1 (Option.isSome_of_any hany)

theorem parse_activeReply {bytes : Bytes} (h : activeReply replies value = some bytes) :
    ∃ t, parse bytes = some t := by
  rcases Option.or_eq_some_iff.1 h with hvalue | ⟨-, hfirst⟩
  · exact exists_parse_of_find?_any hvalue
  · have hsome : (parse bytes).isSome = true := by simpa only using List.find?_some hfirst
    exact Option.isSome_iff_exists.1 hsome

theorem head?_filterMap_parse (sent : List Bytes) :
    (sent.filterMap parse).head? =
      (sent.find? fun bytes => (parse bytes).isSome).bind parse := by
  induction sent with
  | nil => rfl
  | cons bytes sent ih =>
    cases ht : parse bytes with
    | none => rw [List.filterMap_cons_none ht, List.find?_cons_of_neg (by simp [ht]), ih]
    | some t =>
      rw [List.filterMap_cons_some ht, List.find?_cons_of_pos (by simp [ht]), List.head?_cons,
        Option.bind_some, ht]

theorem activeConfiguration_eq {d : DeviceState}
    (h : d.descriptors.children = replies.filterMap ofReply) :
    d.activeConfiguration = (activeReply replies d.configuration).bind parse := by
  have hsent : d.descriptors.children = (replies.filterMap id).filterMap parse := by
    rw [h, List.filterMap_filterMap]
    rfl
  rw [DeviceState.activeConfiguration, hsent, head?_filterMap_parse, activeReply]
  generalize replies.filterMap id = sent
  rw [List.find?_filterMap]
  cases hvalue : sent.find? fun bytes =>
      (parse bytes).any (DeviceState.hasValue d.configuration) with
  | none => rfl
  | some bytes =>
    obtain ⟨t, ht⟩ := exists_parse_of_find?_any hvalue
    rw [Option.some_or, Option.bind_some, ht, Option.some_or]

theorem findEndpoint_activeConfiguration {d : DeviceState}
    (h : d.descriptors.children = replies.filterMap ofReply) (address : UInt8) :
    d.activeConfiguration.bind (·.findEndpoint address) =
      (activeReply replies d.configuration).bind (scanEndpoint · address) := by
  rw [activeConfiguration_eq h, Option.bind_assoc]
  cases hactive : activeReply replies d.configuration with
  | none => rfl
  | some bytes =>
    obtain ⟨t, ht⟩ := parse_activeReply hactive
    rw [Option.bind_some, Option.bind_some, ht, Option.bind_some, findEndpoint_of_parse ht]

end Configuration

/-! ## Runs -/

theorem Bus.world_maxPacketSize {σ : Type} {host : Host σ} {b : Bus σ} {s : σ}
    {location : Location} {key : DeviceKey} {d : Device σ}
    (hd : b.knownDevice location = some (key, d)) (endpoint : UInt8) :
    (b.maxPacketSize host location endpoint s).2.2 = (d.readDescriptors host s).2 := by
  unfold maxPacketSize
  rw [readAt_of_knownDevice host s hd]
  dsimp only
  split <;> rfl

namespace Scene

open VirtualUsb.Configuration (activeReply ofReply scanEndpoint)
open Host (stubborn)
open Passthrough (twofold)

variable {σ : Type} {host : Host σ} {c : Scene (σ × Transcript)}

/-- **Packet sizes are found by scanning what a device sent.** Whatever bytes a configuration was
read from, the endpoint that it has for an address is the first whole one with that address that one
comes to by going through the bytes. So whatever calls were made of a new bus and whatever its host
answered, the packet size that is given for an endpoint of a device of the host, all of whose
configurations could be read or only some, is that of the endpoint which is found by scanning the
reply behind the active configuration, out of the replies that the device has its configurations
from. If there is none, nothing is found. -/
theorem packetSize_of_reached {n : Nat} {latency : UInt64} {memory : Memory} {world : σ}
    (h : Reached host.transcribed (fun c op => op.RespectsTranscript c.world.2)
      ⟨Bus.empty n latency memory, (world, []), []⟩ c) {location : Location} {key : DeviceKey}
    {p : Passthrough} (hp : c.bus.knownDevice location = some (key, .passthrough p)) :
    (∀ (bytes : Bytes) (t : DescriptorTree) (address : UInt8),
      Configuration.parse bytes = some t → t.findEndpoint address = scanEndpoint bytes address) ∧
    ∃ replies : List (Option Bytes),
      (p.readDescriptors host.transcribed c.world).1.state.descriptors.children =
        replies.filterMap ofReply ∧
      ∀ endpoint,
        (replies ≠ [] →
          (c.bus.maxPacketSize host.transcribed location endpoint c.world).2.2.2.Reading
            p.device.id replies) ∧
        (c.bus.maxPacketSize host.transcribed location endpoint c.world).1 =
          match (activeReply replies p.state.configuration).bind (scanEndpoint · endpoint) with
          | none => .error .notFound
          | some e => .ok e.maxPacketSize := by
  have hv : p.VouchedBy c.world.2 := h.vouched key (.passthrough p) (Bus.roster_of_knownDevice hp)
  obtain ⟨-, hread⟩ := Passthrough.sound_readDescriptors host hv
  have hdevice : (p.readDescriptors host.transcribed c.world).1.device = p.device :=
    congrArg (·.1.2) (p.stance_readDescriptors host.transcribed c.world)
  obtain ⟨replies, hreading, hchildren⟩ : ∃ replies : List (Option Bytes),
      (replies ≠ [] →
        (p.readDescriptors host.transcribed c.world).2.2.Reading p.device.id replies) ∧
      (p.readDescriptors host.transcribed c.world).1.state.descriptors.children =
        replies.filterMap ofReply := by
    rcases hread.read with hnone | ⟨replies, hreading, hchildren⟩
    · exact ⟨[], fun hne => absurd rfl hne, hnone⟩
    · exact ⟨replies, fun _ => hdevice ▸ hreading, hchildren⟩
  refine ⟨fun bytes t address ht => Configuration.findEndpoint_of_parse ht address, replies,
    hchildren, fun endpoint => ⟨?_, ?_⟩⟩
  · rw [Bus.world_maxPacketSize hp]
    exact hreading
  · rw [Bus.maxPacketSize_fst, hp]
    show Bus.packetAnswer (p.readDescriptors host.transcribed c.world).1.state endpoint = _
    rewrite [Bus.packetAnswer, Configuration.findEndpoint_activeConfiguration hchildren,
      p.configuration_readDescriptors]
    rfl

/-! ### A device with two configurations -/

/-- A new bus to which a device was attached that has the second of its configurations selected. -/
def offeredSecond : Scene (Unit × Transcript) :=
  Scene.after stubborn.transcribed ⟨Bus.empty 2 0 (.blank 16), ((), []), []⟩
    (.attach (.passthrough (twofold.selecting 2)))

theorem reached_offeredSecond :
    Reached stubborn.transcribed (fun c op => op.RespectsTranscript c.world.2)
      ⟨Bus.empty 2 0 (.blank 16), ((), []), []⟩ offeredSecond :=
  Reached.first.after (.attach (.passthrough (twofold.selecting 2))) ⟨nofun, .inl rfl⟩

theorem maxPacketSize_offeredSecond :
    (offeredSecond.bus.maxPacketSize stubborn.transcribed default 129 offeredSecond.world).1 =
      .ok 64 := by
  decide +kernel

/-- The packet size stands in a reply of the device, at the endpoint that scanning it finds. -/
theorem packetSize_of_twofold :
    ∃ (replies : List (Option Bytes)) (bytes : Bytes) (e : EndpointDescriptor),
      (offeredSecond.bus.maxPacketSize stubborn.transcribed default 129
        offeredSecond.world).2.2.2.Reading 20 replies ∧
      activeReply replies 2 = some bytes ∧ scanEndpoint bytes 129 = some e ∧
      e.maxPacketSize = 64 := by
  have hp : offeredSecond.bus.knownDevice default =
      some (⟨0⟩, .passthrough (twofold.selecting 2)) := rfl
  obtain ⟨-, replies, -, hall⟩ := packetSize_of_reached reached_offeredSecond hp
  obtain ⟨hreading, hanswer⟩ := hall 129
  rw [maxPacketSize_offeredSecond] at hanswer
  cases hfound : (activeReply replies (twofold.selecting 2).state.configuration).bind
      (scanEndpoint · 129) with
  | none =>
    rw [hfound] at hanswer
    exact nomatch hanswer
  | some e =>
    rw [hfound] at hanswer
    obtain ⟨bytes, hactive, hscan⟩ := Option.bind_eq_some_iff.1 hfound
    refine ⟨replies, bytes, e, hreading ?_, hactive, hscan, (Except.ok.inj hanswer).symm⟩
    rintro rfl
    exact nomatch hactive

end Scene

end VirtualUsb
