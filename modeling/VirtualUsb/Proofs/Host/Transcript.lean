import VirtualUsb.Device.Passthrough

/-!
# Transcripts of what devices say

`Host.transcribed` is a host that keeps a transcript of the handles it opened and of the replies to
blocking requests, the latest first. `Transcript.Gave` says that a device gave a reply when it was
asked for one configuration, `Transcript.Reading` that it gave some replies when it was asked for
all of them in a row (`Passthrough.readConfigurations_transcribed`).
-/

namespace VirtualUsb

/-- Something that passed between a bus and its host: a handle was opened for a device, or a request
was made on a handle. A request that failed has no reply. -/
inductive Exchange
  | opened (device : HostDeviceId) (handle : HostHandle)
  | asked (handle : HostHandle) (setup : SetupPacket) (reply : Option Bytes)
  deriving DecidableEq

/-- Exchanges with a host, the latest first. -/
abbrev Transcript := List Exchange

namespace Exchange

/-- The handle that was opened, if any was. -/
def ofOpen (device : HostDeviceId) : Except HostError HostHandle → Option Exchange
  | .ok handle => some (opened device handle)
  | .error _ => none

/-- What a request moved into the buffer that was lent to the host. -/
def replyIn (buffer : Bytes) : Except HostError (Nat × Bytes) → Option Bytes
  | .ok (moved, written) => some ((Bytes.overlay buffer written).take moved)
  | .error _ => none

/-- A request for the configuration with an index. -/
def askedConfiguration (handle : HostHandle) (index : UInt8) (reply : Option Bytes) : Exchange :=
  asked handle (StandardRequest.askDescriptor DescriptorKind.configuration index
    (UInt16.ofNat Passthrough.readSize)) reply

theorem askedConfiguration_inj {handle handle' : HostHandle} {index index' : UInt8}
    {reply reply' : Option Bytes}
    (h : askedConfiguration handle index reply = askedConfiguration handle' index' reply') :
    handle = handle' ∧ index = index' ∧ reply = reply' := by
  obtain ⟨hh, hs, hr⟩ := Exchange.asked.inj h
  have hlow := congrArg (fun setup => Bytes.low setup.value) hs
  exact ⟨hh, by simpa [StandardRequest.askDescriptor] using hlow, hr⟩

end Exchange

/-! ## Hosts with a transcript -/

namespace Host

variable {σ α : Type}

/-- A call from whose answer something may go into the transcript. -/
def transcribing (f : σ → α × σ) (g : α → Option Exchange) (s : σ × Transcript) :
    α × σ × Transcript :=
  let r := f s.1
  (r.1, r.2, (g r.1).toList ++ s.2)

/-- A call of which nothing goes into the transcript. -/
def passing (f : σ → α × σ) : σ × Transcript → α × σ × Transcript :=
  transcribing f fun _ => Option.none

def transcribed (host : Host σ) : Host (σ × Transcript) where
  deviceList := passing host.deviceList
  reference id s := (host.reference id s.1, s.2)
  unreference id s := (host.unreference id s.1, s.2)
  openDevice id := transcribing (host.openDevice id) (Exchange.ofOpen id)
  closeHandle h s := (host.closeHandle h s.1, s.2)
  autoDetach h enable := passing (host.autoDetach h enable)
  claim h i := passing (host.claim h i)
  release h i := passing (host.release h i)
  configuration h := passing (host.configuration h)
  setConfiguration h value := passing (host.setConfiguration h value)
  setAlternate h i setting := passing (host.setAlternate h i setting)
  controlSync h setup buffer timeout :=
    transcribing (host.controlSync h setup buffer timeout) fun r =>
      some (.asked h setup (Exchange.replyIn buffer r))
  submit t := passing (host.submit t)
  handleEvents timeout := passing (host.handleEvents timeout)
  patience s := host.patience s.1
  patience_lt t s := host.patience_lt t s.1

theorem transcript_passing {f : σ → α × σ} {s s' : σ × Transcript} {a : α}
    (h : passing f s = (a, s')) : s'.2 = s.2 := by
  cases h
  rfl

section

variable {host : Host σ} {s s' : σ × Transcript}

theorem transcript_openDevice {id : HostDeviceId} {a : Except HostError HostHandle}
    (h : host.transcribed.openDevice id s = (a, s')) :
    s'.2 = (Exchange.ofOpen id a).toList ++ s.2 := by
  cases h
  rfl

theorem transcript_openDevice_ok {id : HostDeviceId} {handle : HostHandle}
    (h : host.transcribed.openDevice id s = (.ok handle, s')) :
    s.2 <:+ s'.2 ∧ .opened id handle ∈ s'.2 := by
  have hs : s'.2 = .opened id handle :: s.2 := transcript_openDevice h
  rw [hs]
  exact ⟨List.suffix_cons _ _, List.mem_cons_self⟩

theorem transcript_controlSync {handle : HostHandle} {setup : SetupPacket} {buffer : Bytes}
    {timeout : Nat} {a : Except HostError (Nat × Bytes)}
    (h : host.transcribed.controlSync handle setup buffer timeout s = (a, s')) :
    s'.2 = .asked handle setup (Exchange.replyIn buffer a) :: s.2 := by
  cases h
  rfl

end

end Host

/-! ## What a transcript says -/

def Configuration.ofReply (reply : Option Bytes) : Option DescriptorTree :=
  reply.bind Configuration.parse

namespace Transcript

variable {tr tr' : Transcript} {id : HostDeviceId}

/-- Whether a device gave a reply when it was asked for the configuration with an index, on a handle
that was opened for it before. -/
def Gave (tr : Transcript) (id : HostDeviceId) (index : UInt8) (reply : Option Bytes) : Prop :=
  ∃ handle past, .opened id handle ∈ past ∧ .askedConfiguration handle index reply :: past <:+ tr

theorem Gave.mem {index : UInt8} {reply : Option Bytes} (h : tr.Gave id index reply) :
    ∃ handle, .askedConfiguration handle index reply ∈ tr := by
  obtain ⟨handle, past, -, hs⟩ := h
  exact ⟨handle, hs.mem List.mem_cons_self⟩

/-- Requests for configurations on one handle, each with its reply. -/
def row (handle : HostHandle) (indices : List UInt8) (replies : List (Option Bytes)) : Transcript :=
  (List.zipWith (Exchange.askedConfiguration handle) indices replies).reverse

/-- Whether a device gave these replies when it was asked for one configuration after another, from
the first on and on one handle that was opened for it before. There are no more of them than indices
in a byte. -/
def Reading (tr : Transcript) (id : HostDeviceId) (replies : List (Option Bytes)) : Prop :=
  replies.length < UInt8.size ∧ ∃ handle past, .opened id handle ∈ past ∧
    row handle ((List.range replies.length).map UInt8.ofNat) replies ++ past <:+ tr

theorem Reading.mono {replies : List (Option Bytes)} (h : tr.Reading id replies) (hs : tr <:+ tr') :
    tr'.Reading id replies := by
  obtain ⟨hlen, handle, past, hopened, hrow⟩ := h
  exact ⟨hlen, handle, past, hopened, hrow.trans hs⟩

/-- When an exchange of a row was made, those before it in the row had been made. -/
theorem cons_suffix_row {handle : HostHandle} {indices : List UInt8} {replies : List (Option Bytes)}
    {i : Nat} {index : UInt8} {reply : Option Bytes} (hi : indices[i]? = some index)
    (hr : replies[i]? = some reply) :
    .askedConfiguration handle index reply :: row handle (indices.take i) (replies.take i) <:+
      row handle indices replies := by
  have hget : (List.zipWith (Exchange.askedConfiguration handle) indices replies)[i]? =
      some (.askedConfiguration handle index reply) := by
    rw [List.getElem?_zipWith, hi, hr]
  unfold row
  rw [← List.take_zipWith]
  generalize List.zipWith (Exchange.askedConfiguration handle) indices replies = l at hget
  have hcut : l.take i ++ [.askedConfiguration handle index reply] = l.take (i + 1) := by
    rw [List.take_add_one, hget, Option.toList_some]
  rw [← List.reverse_concat, List.reverse_suffix, hcut]
  exact List.take_prefix _ _

/-- Each reply of a reading was given for the index that is its place. -/
theorem Reading.gave {replies : List (Option Bytes)} {index : UInt8} {reply : Option Bytes}
    (h : tr.Reading id replies) (hr : replies[index.toNat]? = some reply) :
    tr.Gave id index reply := by
  obtain ⟨-, handle, past, hopened, hrow⟩ := h
  have hlt := (List.getElem?_eq_some_iff.1 hr).1
  have hi : ((List.range replies.length).map UInt8.ofNat)[index.toNat]? = some index := by
    rw [List.getElem?_map, List.getElem?_range hlt, Option.map_some, UInt8.ofNat_toNat]
  generalize (List.range replies.length).map UInt8.ofNat = indices at hrow hi
  obtain ⟨later, he⟩ : _ <:+ row handle indices replies := cons_suffix_row hi hr
  rw [← he, List.append_assoc] at hrow
  exact ⟨handle, _, List.mem_append_right _ hopened, (List.suffix_append later _).trans hrow⟩

end Transcript

/-! ## Reading configurations -/

namespace Passthrough

variable {σ : Type} (host : Host σ) (handle : HostHandle) (timeout : Nat)

theorem readConfiguration_transcribed (index : UInt8) (s : σ × Transcript) :
    ∃ reply : Option Bytes,
      (readConfiguration host.transcribed handle timeout index s).1 =
        Configuration.ofReply reply ∧
      (readConfiguration host.transcribed handle timeout index s).2.2 =
        .askedConfiguration handle index reply :: s.2 := by
  unfold readConfiguration
  dsimp only
  split
  · exact ⟨none, rfl, Host.transcript_controlSync ‹_›⟩
  · exact ⟨_, rfl, Host.transcript_controlSync ‹_›⟩

theorem readConfigurations_transcribed (indices : List UInt8) (s : σ × Transcript) :
    ∃ replies : List (Option Bytes), replies.length = indices.length ∧
      (readConfigurations host.transcribed handle timeout indices s).1 =
        replies.filterMap Configuration.ofReply ∧
      (readConfigurations host.transcribed handle timeout indices s).2.2 =
        Transcript.row handle indices replies ++ s.2 := by
  induction indices generalizing s with
  | nil => exact ⟨[], rfl, rfl, rfl⟩
  | cons index rest ih =>
    obtain ⟨reply, hread, hasked⟩ := readConfiguration_transcribed host handle timeout index s
    obtain ⟨replies, hlen, hreads, hrow⟩ :=
      ih (readConfiguration host.transcribed handle timeout index s).2
    refine ⟨reply :: replies, congrArg (· + 1) hlen, ?_, ?_⟩
    · rw [readConfigurations]
      dsimp only
      rw [hread, hreads, List.filterMap_cons]
      cases Configuration.ofReply reply <;> rfl
    · refine hrow.trans ?_
      rw [hasked, Transcript.row, Transcript.row, List.zipWith_cons_cons, List.reverse_cons,
        List.append_assoc, List.singleton_append]

end Passthrough

end VirtualUsb
