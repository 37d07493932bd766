import VirtualUsb.Proofs.Settings.Construction
import VirtualUsb.Proofs.Transfer.Deadline

/-!
# What emulated devices touch

Whatever the peripheral of an emulated device does with the bytes that it is lent, a transfer
changes guest memory only where the guest's buffer lies, only if data flows to the guest, and only
by the bytes that it counts (`Emulated.concluded_conclude`). The device settles five control
requests by itself (`Emulated.settles_serve`); all the others come to what the peripheral makes of
them, and so do interrupt transfers (`Emulated.confined_of_transfer`).
-/

namespace VirtualUsb

/-! ## Requests that every device answers -/

namespace SetupPacket

/-- The request types and numbers of SET_CONFIGURATION, SET_INTERFACE, GET_STATUS, GET_DESCRIPTOR
and GET_CONFIGURATION. -/
def ownRequests : List (UInt8 × UInt8) :=
  [(0x00, 0x09), (0x01, 0x0B), (0x80, 0x00), (0x80, 0x06), (0x80, 0x08)]

/-- Whether a packet opens a request that an emulated device answers by itself. -/
def IsOwn (p : SetupPacket) : Prop := (p.requestType, p.request) ∈ ownRequests

instance (p : SetupPacket) : Decidable p.IsOwn :=
  inferInstanceAs (Decidable ((p.requestType, p.request) ∈ ownRequests))

/-- The request types of the standard requests among all the others. -/
theorem requestType_iff (p : SetupPacket) :
    (p.direction = .hostToDevice ∧ p.requestClass = .standard ∧ p.recipient = .device ↔
      p.requestType = 0x00) ∧
    (p.direction = .hostToDevice ∧ p.requestClass = .standard ∧ p.recipient = .interface ↔
      p.requestType = 0x01) ∧
    (p.direction = .deviceToHost ∧ p.requestClass = .standard ∧ p.recipient = .device ↔
      p.requestType = 0x80) := by
  -- only the request type is looked at, so there are 256 packets to go through
  have h : ∀ n : Fin 256, let q : SetupPacket := { requestType := ⟨⟨n⟩⟩ }
      (q.direction = .hostToDevice ∧ q.requestClass = .standard ∧ q.recipient = .device ↔
        q.requestType = 0x00) ∧
      (q.direction = .hostToDevice ∧ q.requestClass = .standard ∧ q.recipient = .interface ↔
        q.requestType = 0x01) ∧
      (q.direction = .deviceToHost ∧ q.requestClass = .standard ∧ q.recipient = .device ↔
        q.requestType = 0x80) := by decide +kernel
  exact h p.requestType.toFin

/-- Which standard request each of these packets opens. -/
theorem ofSetup_of_isOwn {p : SetupPacket} (h : p.IsOwn) :
    (p.requestType = 0x00 ∧ p.request = 0x09) ∧
        StandardRequest.ofSetup p = some (.setConfiguration p.valueLow) ∨
      (p.requestType = 0x01 ∧ p.request = 0x0B) ∧
        StandardRequest.ofSetup p = some (.setInterface (Bytes.low p.index)) ∨
      (p.requestType = 0x80 ∧ p.request = 0x00) ∧
        StandardRequest.ofSetup p = some .getStatus ∨
      (p.requestType = 0x80 ∧ p.request = 0x06) ∧
        StandardRequest.ofSetup p = some (.getDescriptor p.valueHigh p.valueLow) ∨
      (p.requestType = 0x80 ∧ p.request = 0x08) ∧
        StandardRequest.ofSetup p = some .getConfiguration := by
  obtain ⟨hdevice, hinterface, hanswer⟩ := p.requestType_iff
  unfold IsOwn ownRequests at h
  simp only [List.mem_cons, List.not_mem_nil, or_false, Prod.mk.injEq] at h
  unfold StandardRequest.ofSetup
  rcases h with ⟨ht, hr⟩ | ⟨ht, hr⟩ | ⟨ht, hr⟩ | ⟨ht, hr⟩ | ⟨ht, hr⟩
  · obtain ⟨h₁, h₂, h₃⟩ := hdevice.2 ht
    simp [h₁, h₂, h₃, ht, hr]
  · obtain ⟨h₁, h₂, h₃⟩ := hinterface.2 ht
    simp [h₁, h₂, h₃, ht, hr]
  all_goals
    obtain ⟨h₁, h₂, h₃⟩ := hanswer.2 ht
    simp [h₁, h₂, h₃, ht, hr]

/-- Bit 7 of the request type says that data flows to the guest. -/
theorem isIn_eq (p : SetupPacket) : p.isIn = decide (0x80 ≤ p.requestType) := by
  have h : ∀ n : Fin 256, let q : SetupPacket := { requestType := ⟨⟨n⟩⟩ }
      q.isIn = decide (0x80 ≤ q.requestType) := by decide +kernel
  exact h p.requestType.toFin

theorem isOwn_iff (p : SetupPacket) : p.IsOwn ↔ ∃ r, StandardRequest.ofSetup p = some r := by
  obtain ⟨hdevice, hinterface, hanswer⟩ := p.requestType_iff
  constructor
  · intro h
    rcases ofSetup_of_isOwn h with ⟨-, h⟩ | ⟨-, h⟩ | ⟨-, h⟩ | ⟨-, h⟩ | ⟨-, h⟩
    all_goals exact ⟨_, h⟩
  · rintro ⟨r, h⟩
    unfold StandardRequest.ofSetup at h
    unfold IsOwn
    split at h
    case h_6 => exact nomatch h
    case h_1 h₁ h₂ h₃ hr =>
      rw [hdevice.1 ⟨h₁, h₂, h₃⟩, hr]
      decide
    case h_2 h₁ h₂ h₃ hr =>
      rw [hinterface.1 ⟨h₁, h₂, h₃⟩, hr]
      decide
    all_goals
      rename_i h₁ h₂ h₃ hr
      rw [hanswer.1 ⟨h₁, h₂, h₃⟩, hr]
      decide

end SetupPacket

theorem isInEndpoint_eq (endpoint : UInt8) :
    isInEndpoint endpoint = decide (0x80 ≤ endpoint) := by
  have h : ∀ n : Fin 256, isInEndpoint ⟨⟨n⟩⟩ = decide ((0x80 : UInt8) ≤ ⟨⟨n⟩⟩) := by
    decide +kernel
  exact h endpoint.toFin

/-! ## Bytes lent and bytes moved -/

/-- Whether some bytes are left where others were lent and written over from their start. -/
structure Bytes.Overlaid (lent written left : Bytes) : Prop where
  length_eq : left.length = lent.length
  bytes : ∀ i < lent.length, left[i]? = (written[i]?).or lent[i]?

theorem Bytes.overlaid_overlay (lent written : Bytes) :
    Overlaid lent written (overlay lent written) :=
  ⟨length_overlay .., fun _ hi => getElem?_overlay hi⟩

/-- Whether some bytes are what the first `length` bytes of a guest's buffer are to the device that
serves a transfer: zeros if data flows to the guest, and otherwise what stands in memory, with
zeros past its end. -/
structure Memory.Lends (m : Memory) (isIn : Bool) (addr : UInt64) (length : Nat) (data : Bytes) :
    Prop where
  length_eq : data.length = length
  zeros : isIn = true → ∀ byte ∈ data, byte = 0
  bytes : isIn = false → ∀ i < length, data[i]? = some (m.bytes.getD (addr.toNat + i) 0)

theorem Memory.lends_dataStage (m : Memory) (isIn : Bool) (b : GuestBuffer) (limit : Nat) :
    m.Lends isIn b.addr (min b.len limit) ((b.truncated limit).dataStage m isIn) := by
  refine ⟨(b.truncated limit).length_dataStage m isIn, fun hin byte hbyte => ?_,
    fun hout i hi => ?_⟩
  · subst hin
    exact List.eq_of_mem_replicate hbyte
  · subst hout
    exact m.getElem?_read b.addr hi

/-- Whether a service has ended with a number of bytes moved, out of those that were produced. One
end was scheduled, and of guest memory just these bytes changed, and only if they flow there. -/
structure Service.Concluded (v : Service) (isIn : Bool) (addr : UInt64) (produced : Bytes)
    (count : Nat) (v' : Service) : Prop where
  count_le : count ≤ produced.length
  size : v'.memory.size = v.memory.size
  byteAt : ∀ i, v'.memory.byteAt i =
    if isIn = true ∧ addr.toNat ≤ i ∧ i < addr.toNat + count ∧ i < v.memory.size then
      produced.getD (i - addr.toNat) 0
    else v.memory.byteAt i
  out : isIn = false → v'.memory = v.memory
  scheduled : ∃ n : UInt32, n.toNat = count ∧ v'.transfer = { v.transfer with
    scheduled := some ⟨Time.after v.now v.latency.toNat, .completed, n⟩ }
  agenda : v'.agenda.pending = v.agenda.pending ++ [v.id]
  submission : v'.submission = v.submission

/-- The bytes written are the first of those given, as far as there is memory. -/
theorem Memory.byteAt_write_take (m : Memory) (addr : UInt64) {data : Bytes} {n : Nat}
    (hn : n ≤ data.length) (i : Nat) : (m.write addr (data.take n)).byteAt i =
      if addr.toNat ≤ i ∧ i < addr.toNat + n ∧ i < m.size then data.getD (i - addr.toNat) 0
      else m.byteAt i := by
  have hlen : (data.take n).length = n := List.length_take_of_le hn
  rw [byteAt_write, hlen]
  split
  · rename_i hin
    rw [List.getD_eq_getElem?_getD, List.getElem?_take_of_lt (by omega),
      ← List.getD_eq_getElem?_getD]
  · rfl

namespace Emulated

variable {σ : Type}

/-- A service ends with no more bytes moved than were lent. -/
theorem concluded_conclude (v : Service) (isIn : Bool) (b : GuestBuffer) {data : Bytes}
    {limit : Nat} (count : Nat) (hdata : data.length = min b.len limit)
    (hlimit : limit ≤ maxTransferLength) :
    v.Concluded isIn b.addr data (min count data.length)
      (conclude v isIn (b.truncated limit) data count) := by
  have hmoved : min count data.length ≤ data.length := Nat.min_le_right ..
  have hsmall : min count data.length < UInt32.size := by
    rw [maxTransferLength] at hlimit
    rw [UInt32.size]
    omega
  have hwritten : (data.take (min count data.length)).take (min b.len limit) =
      data.take (min count data.length) := by
    rw [List.take_take, Nat.min_eq_right (hdata ▸ hmoved)]
  refine ⟨hmoved, ?_, fun i => ?_, fun hout => ?_, ?_, ?_, submission_conclude ..⟩
  · cases isIn with
    | true => exact (b.truncated limit).size_writeTo v.memory _
    | false => rfl
  · cases isIn with
    | true =>
      show (v.memory.write b.addr
        ((data.take (min count data.length)).take (min b.len limit))).byteAt i = _
      rw [hwritten, Memory.byteAt_write_take v.memory b.addr hmoved]
      simp only [true_and]
    | false => exact (if_neg fun h => Bool.false_ne_true h.1).symm
  · subst hout
    rfl
  · exact ⟨_, toNat_clampCount_of_lt hsmall, transfer_conclude v isIn (b.truncated limit) data count⟩
  · rw [agenda_conclude]
    rfl

end Emulated

/-! ## Calls of peripherals -/

/-- A call of a peripheral, with the bytes that it is lent. -/
inductive PeripheralCall where
  | control (setup : SetupPacket) (data : Bytes)
  | interrupt (endpoint : UInt8) (data : Bytes)
  deriving DecidableEq

/-- The peripheral whose world also holds a log of its calls, the latest first. -/
def Peripheral.logged {σ : Type} (p : Peripheral σ) : Peripheral (σ × List PeripheralCall) where
  control setup data s :=
    ((p.control setup data s.1).1, (p.control setup data s.1).2, .control setup data :: s.2)
  interrupt endpoint data s :=
    ((p.interrupt endpoint data s.1).1, (p.interrupt endpoint data s.1).2,
      .interrupt endpoint data :: s.2)

namespace Emulated

variable {σ : Type}

/-- The device whose peripheral keeps a log. -/
def logged (d : Emulated σ) : Emulated (σ × List PeripheralCall) where
  state := d.state
  strings := d.strings
  status := d.status
  peripheral := d.peripheral.map Peripheral.logged

@[simp] theorem peripheral_logged (d : Emulated σ) :
    d.logged.peripheral = d.peripheral.map Peripheral.logged := rfl

variable (d : Emulated σ) (setup : SetupPacket) (endpoint : UInt8) (buffer : GuestBuffer)
  (v : Service) (s : σ)

/-- A request that the device does not settle goes to the peripheral, if there is one. -/
theorem serve_of_not_isOwn (hown : ¬ setup.IsOwn) (data : Bytes) : d.serve setup data s =
    d.peripheral.elim (⟨none, data, d⟩, s) fun p =>
      (⟨(p.control setup data s).1.1, Bytes.overlay data (p.control setup data s).1.2, d⟩,
        (p.control setup data s).2) := by
  have hnone : StandardRequest.ofSetup setup = none :=
    Option.eq_none_iff_forall_ne_some.2 fun r hr => hown (setup.isOwn_iff.2 ⟨r, hr⟩)
  unfold serve
  rw [hnone]
  cases d.peripheral <;> rfl

/-- What a control request comes to does not depend on the log, which holds one more call unless
the device answers by itself. -/
theorem serve_logged (data : Bytes) (log : List PeripheralCall) :
    d.logged.serve setup data (s, log) =
      (⟨(d.serve setup data s).1.count, (d.serve setup data s).1.data,
        (d.serve setup data s).1.device.logged⟩, (d.serve setup data s).2,
        (if setup.IsOwn then [] else d.peripheral.toList.map fun _ => .control setup data) ++
          log) := by
  by_cases hown : setup.IsOwn
  · obtain ⟨request, hrequest⟩ := setup.isOwn_iff.1 hown
    rw [if_pos hown, serve_of_standard hrequest, serve_of_standard hrequest]
    cases request <;> rfl
  · rw [if_neg hown, serve_of_not_isOwn _ _ _ hown, serve_of_not_isOwn _ _ _ hown,
      peripheral_logged]
    cases d.peripheral <;> rfl

/-! ## Control transfers -/

/-- The bytes with which a device answers three of the requests that it settles by itself: a status
word with a bit for each of two flags, a descriptor, or the number of the selected configuration. -/
inductive OwnAnswer : Bytes → Prop
  | status (h : setup.requestType = 0x80 ∧ setup.request = 0x00) :
    OwnAnswer [(if d.status.selfPowered then 1 else 0) + if d.status.remoteWakeup then 2 else 0, 0]
  | descriptor (h : setup.requestType = 0x80 ∧ setup.request = 0x06) :
    OwnAnswer (d.descriptorAnswer setup.valueHigh setup.valueLow)
  | configuration (h : setup.requestType = 0x80 ∧ setup.request = 0x08) :
    OwnAnswer [d.state.configuration]

/-- What the requests come to that a device settles by itself. Two of them take a number over and
accept all bytes; the others write an answer at the start of the bytes lent. -/
inductive Settles (data : Bytes) : Outcome σ → Prop
  | configuration (h : setup.requestType = 0x00 ∧ setup.request = 0x09) :
    Settles data ⟨some data.length, data, { d with state.configuration := setup.valueLow }⟩
  | interface (h : setup.requestType = 0x01 ∧ setup.request = 0x0B) :
    Settles data ⟨some data.length, data, { d with state.interface := Bytes.low setup.index }⟩
  | answer {answer left : Bytes} (h : d.OwnAnswer setup answer)
      (hleft : Bytes.Overlaid data answer left) :
    Settles data ⟨some (min answer.length data.length), left, d⟩

theorem settles_serve (hown : setup.IsOwn) (data : Bytes) :
    ∃ o, d.Settles setup data o ∧ d.serve setup data s = (o, s) := by
  rcases SetupPacket.ofSetup_of_isOwn hown with
    ⟨h, hr⟩ | ⟨h, hr⟩ | ⟨h, hr⟩ | ⟨h, hr⟩ | ⟨h, hr⟩
  · exact ⟨_, .configuration h, serve_of_standard hr data s⟩
  · exact ⟨_, .interface h, serve_of_standard hr data s⟩
  · have hstatus : d.status.answer =
        [(if d.status.selfPowered then 1 else 0) + if d.status.remoteWakeup then 2 else 0, 0] := by
      unfold DeviceStatus.answer DeviceStatus.bits
      cases d.status.selfPowered <;> cases d.status.remoteWakeup <;> rfl
    refine ⟨_, .answer (.status h) (Bytes.overlaid_overlay ..),
      (serve_of_standard hr data s).trans ?_⟩
    rw [← hstatus]
    rfl
  · exact ⟨_, .answer (.descriptor h) (Bytes.overlaid_overlay ..), serve_of_standard hr data s⟩
  · exact ⟨_, .answer (.configuration h) (Bytes.overlaid_overlay ..), serve_of_standard hr data s⟩

/-- What comes of a control transfer that lends some bytes to the device. It settles the request by
itself, or there is no peripheral and no byte is moved, or the peripheral is asked, which counts the
bytes that it has moved, if it serves the request at all. -/
inductive AnswersControl (data : Bytes) : Emulated σ × Service × σ → Prop
  | own {o : Outcome σ} {v' : Service} (hown : setup.IsOwn) (ho : d.Settles setup data o)
      (hv : v.Concluded (0x80 ≤ setup.requestType) buffer.addr o.data
        (min (o.count.getD 0) data.length) v') :
    AnswersControl data (o.device, v', s)
  | absent {v' : Service} (hown : ¬ setup.IsOwn) (hp : d.peripheral = none)
      (hv : v.Concluded (0x80 ≤ setup.requestType) buffer.addr data 0 v') :
    AnswersControl data (d, v', s)
  | asked {p : Peripheral σ} {count : Option Nat} {written left : Bytes} {s' : σ} {v' : Service}
      (hown : ¬ setup.IsOwn) (hp : d.peripheral = some p)
      (ha : p.control setup data s = ((count, written), s'))
      (hleft : Bytes.Overlaid data written left)
      (hv : v.Concluded (0x80 ≤ setup.requestType) buffer.addr left
        (min (count.getD 0) data.length) v') : AnswersControl data (d, v', s')

/-- How an emulated device serves a control transfer in a world: what it is lent, what comes of it,
and what its peripheral was called for. -/
structure ServesControl (data : Bytes) (r : Emulated σ × Service × σ) : Prop where
  lent : v.memory.Lends (0x80 ≤ setup.requestType) buffer.addr
    (min buffer.len setup.length.toNat) data
  answer : d.AnswersControl setup buffer v s data r
  calls : ∀ log, d.logged.controlTransfer setup buffer v (s, log) = (r.1.logged, r.2.1, r.2.2,
    (if setup.IsOwn then [] else d.peripheral.toList.map fun _ => .control setup data) ++ log)

theorem controlTransfer_eq {data : Bytes}
    (hdata : v.dataStage setup.isIn (buffer.truncated setup.length.toNat) = data) :
    d.controlTransfer setup buffer v s = ((d.serve setup data s).1.device,
      conclude v setup.isIn (buffer.truncated setup.length.toNat) (d.serve setup data s).1.data
        ((d.serve setup data s).1.count.getD 0), (d.serve setup data s).2) := by
  subst hdata
  rfl

/-- A control transfer lends the device some bytes, and ends with those that it makes of them. -/
theorem exists_lent : ∃ data,
    v.memory.Lends setup.isIn buffer.addr (min buffer.len setup.length.toNat) data ∧
    v.dataStage setup.isIn (buffer.truncated setup.length.toNat) = data ∧
    v.Concluded setup.isIn buffer.addr (d.serve setup data s).1.data
      (min ((d.serve setup data s).1.count.getD 0) data.length)
      (d.controlTransfer setup buffer v s).2.1 := by
  have hlends := v.memory.lends_dataStage setup.isIn buffer setup.length.toNat
  generalize hdata : v.dataStage setup.isIn (buffer.truncated setup.length.toNat) = data
  rw [show (buffer.truncated setup.length.toNat).dataStage v.memory setup.isIn = data from hdata]
    at hlends
  have hproduced := d.length_data_serve setup data s
  have hconcluded := concluded_conclude v setup.isIn buffer
    ((d.serve setup data s).1.count.getD 0) (hproduced.trans hlends.length_eq)
    (Nat.le_of_lt_succ setup.length.toNat_lt)
  rw [hproduced] at hconcluded
  rw [d.controlTransfer_eq setup buffer v s hdata]
  exact ⟨data, hlends, rfl, hconcluded⟩

theorem servesControl_controlTransfer :
    ∃ data, d.ServesControl setup buffer v s data (d.controlTransfer setup buffer v s) := by
  obtain ⟨data, hlends, hdata, hconcluded⟩ := d.exists_lent setup buffer v s
  have htransfer := d.controlTransfer_eq setup buffer v s hdata
  rw [setup.isIn_eq] at hlends hconcluded
  refine ⟨data, hlends, ?_, fun log => ?_⟩
  · rw [htransfer] at hconcluded ⊢
    generalize conclude v setup.isIn (buffer.truncated setup.length.toNat)
      (d.serve setup data s).1.data ((d.serve setup data s).1.count.getD 0) = v' at hconcluded ⊢
    by_cases hown : setup.IsOwn
    · obtain ⟨o, ho, hserve⟩ := d.settles_serve setup s hown data
      rw [hserve] at hconcluded ⊢
      exact .own hown ho hconcluded
    · rw [d.serve_of_not_isOwn setup s hown] at hconcluded ⊢
      cases hp : d.peripheral with
      | none =>
        rw [hp] at hconcluded
        refine .absent hown hp ?_
        simpa using hconcluded
      | some p =>
        rw [hp] at hconcluded
        exact .asked hown hp rfl (Bytes.overlaid_overlay ..) hconcluded
  · rw [d.logged.controlTransfer_eq setup buffer v (s, log) hdata, serve_logged, htransfer]

/-! ## Interrupt transfers -/

/-- What comes of an interrupt transfer that lends some bytes to the peripheral: there is none, or
it declines, which leaves the transfer as it is, or it answers with a number of bytes. -/
inductive AnswersInterrupt (data : Bytes) : Service × σ → Prop
  | absent (hp : d.peripheral = none) : AnswersInterrupt data (v, s)
  | declined {p : Peripheral σ} {written : Bytes} {s' : σ} (hp : d.peripheral = some p)
      (ha : p.interrupt endpoint data s = ((none, written), s')) : AnswersInterrupt data (v, s')
  | answered {p : Peripheral σ} {count : Nat} {written left : Bytes} {s' : σ} {v' : Service}
      (hp : d.peripheral = some p)
      (ha : p.interrupt endpoint data s = ((some count, written), s'))
      (hleft : Bytes.Overlaid data written left)
      (hv : v.Concluded (0x80 ≤ endpoint) buffer.addr left (min count data.length) v') :
    AnswersInterrupt data (v', s')

/-- How an emulated device serves an interrupt transfer in a world. -/
structure ServesInterrupt (data : Bytes) (r : Service × σ) : Prop where
  lent : v.memory.Lends (0x80 ≤ endpoint) buffer.addr (min buffer.len 65535) data
  answer : d.AnswersInterrupt endpoint buffer v s data r
  calls : ∀ log, d.logged.interruptTransfer endpoint buffer v (s, log) =
    (r.1, r.2, (d.peripheral.toList.map fun _ => .interrupt endpoint data) ++ log)

theorem interruptTransfer_eq {data : Bytes}
    (hdata : v.dataStage (isInEndpoint endpoint) (buffer.truncated maxTransferLength) = data) :
    d.interruptTransfer endpoint buffer v s = d.peripheral.elim (v, s) fun p =>
      ((p.interrupt endpoint data s).1.1.elim v
        (conclude v (isInEndpoint endpoint) (buffer.truncated maxTransferLength)
          (Bytes.overlay data (p.interrupt endpoint data s).1.2)),
        (p.interrupt endpoint data s).2) := by
  cases hp : d.peripheral with
  | none => simp only [interruptTransfer, hp, Option.elim_none]
  | some p =>
    generalize ha : p.interrupt endpoint data s = answer
    obtain ⟨⟨_ | count, written⟩, s'⟩ := answer <;>
      simp only [interruptTransfer, hp, hdata, ha, Option.elim_some, Option.elim_none]

/-- What an interrupt transfer comes to does not depend on the log, which holds one more call if
there is a peripheral. -/
theorem interruptTransfer_logged {data : Bytes}
    (hdata : v.dataStage (isInEndpoint endpoint) (buffer.truncated maxTransferLength) = data)
    (log : List PeripheralCall) : d.logged.interruptTransfer endpoint buffer v (s, log) =
      ((d.interruptTransfer endpoint buffer v s).1, (d.interruptTransfer endpoint buffer v s).2,
        (d.peripheral.toList.map fun _ => .interrupt endpoint data) ++ log) := by
  rw [interruptTransfer_eq _ _ _ _ _ hdata, interruptTransfer_eq _ _ _ _ _ hdata,
    peripheral_logged]
  cases d.peripheral <;> rfl

theorem answersInterrupt_interruptTransfer {data : Bytes}
    (hdata : v.dataStage (isInEndpoint endpoint) (buffer.truncated maxTransferLength) = data)
    (hlength : data.length = min buffer.len maxTransferLength) :
    d.AnswersInterrupt endpoint buffer v s data (d.interruptTransfer endpoint buffer v s) := by
  rw [d.interruptTransfer_eq endpoint buffer v s hdata]
  cases hp : d.peripheral with
  | none => exact .absent hp
  | some p =>
    rw [Option.elim_some]
    generalize ha : p.interrupt endpoint data s = answer
    obtain ⟨⟨_ | count, written⟩, s'⟩ := answer
    · exact .declined hp ha
    · have hoverlay : (Bytes.overlay data written).length = data.length :=
        Bytes.length_overlay ..
      have hconcluded := concluded_conclude v (isInEndpoint endpoint) buffer count
        (hoverlay.trans hlength) Nat.le.refl
      rw [hoverlay] at hconcluded
      exact .answered hp ha (Bytes.overlaid_overlay data written) (isInEndpoint_eq _ ▸ hconcluded)

theorem servesInterrupt_interruptTransfer :
    ∃ data, d.ServesInterrupt endpoint buffer v s data
      (d.interruptTransfer endpoint buffer v s) := by
  have hlends := v.memory.lends_dataStage (isInEndpoint endpoint) buffer maxTransferLength
  generalize hdata : v.dataStage (isInEndpoint endpoint) (buffer.truncated maxTransferLength) = data
  rw [show (buffer.truncated maxTransferLength).dataStage v.memory (isInEndpoint endpoint) = data
    from hdata, isInEndpoint_eq] at hlends
  exact ⟨data, hlends, d.answersInterrupt_interruptTransfer endpoint buffer v s hdata
    hlends.length_eq, d.interruptTransfer_logged endpoint buffer v s hdata⟩

/-- **Transfers of an emulated device touch the guest's buffer only.** A control transfer lends the
device as many bytes as the setup packet asks for, and an interrupt transfer up to 65535, if the
buffer that the guest passed has them. These are zeros or what stands in guest memory. The device
settles five control requests by itself; for every other one and for each interrupt transfer its
peripheral is called once, with just these bytes. What is written to memory are the first bytes of
what the device or the peripheral has made of them, as many as it counts and not more than it was
lent; nothing else in memory changes. A control transfer always sets one end, an interrupt transfer
just if the peripheral returns a count. -/
theorem confined_of_transfer :
    (∀ setup, ∃ data, d.ServesControl setup buffer v s data (d.controlTransfer setup buffer v s)) ∧
      ∀ endpoint, ∃ data, d.ServesInterrupt endpoint buffer v s data
        (d.interruptTransfer endpoint buffer v s) :=
  ⟨fun setup => d.servesControl_controlTransfer setup buffer v s,
    fun endpoint => d.servesInterrupt_interruptTransfer endpoint buffer v s⟩

/-- A peripheral that claims to have moved a thousand bytes was lent four, and there is memory for
two of them only. -/
example :
    let p : Peripheral Unit := { Peripheral.idle with
      control _ _ s := ((some 1000, [1, 2, 3, 4, 5, 6]), s) }
    let d : Emulated Unit := ⟨(ofDescriptor {} default : Emulated Unit).state, [], {}, p⟩
    let v : Service := ⟨default, .blank 8, {}, 0, 0, none⟩
    let r := (d.controlTransfer { requestType := 0xC0, length := 4 } ⟨6, 8⟩ v ()).2.1
    (r.memory.bytes, r.transfer.scheduled.map (·.count)) =
      (#[0, 0, 0, 0, 0, 0, 1, 2], some 4) := by
  decide

end Emulated

end VirtualUsb
