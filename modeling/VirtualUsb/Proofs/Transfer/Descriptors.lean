import VirtualUsb.Proofs.Bus.Moves
import VirtualUsb.Proofs.Device.Confinement
import VirtualUsb.Proofs.Device.Edits
import VirtualUsb.Proofs.Transfer.Submission

/-!
# Descriptors on their way to a guest

A device that was built stays one whatever a bus does with it (`Scene.Reached.isBuilt`), and so its
answers to GET_DESCRIPTOR stay whole descriptors. A guest that asks for one finds in its memory as
much of the answer as the setup packet, the buffer and the memory leave room for, and is told how
much that was once the transfer has ended (`Scene.descriptor_of_built`).
-/

namespace VirtualUsb

/-! ## The request -/

/-- The setup packet that asks a device for a descriptor in some language. -/
def SetupPacket.getDescriptor (kind index : UInt8) (language length : UInt16) : SetupPacket :=
  ⟨0x80, 0x06, Bytes.word index kind, language, length⟩

section

variable (kind index : UInt8) (language length : UInt16)

theorem SetupPacket.isIn_getDescriptor :
    (getDescriptor kind index language length).isIn = true := by
  obtain ⟨hdirection, -, -⟩ := (getDescriptor kind index language length).requestType_iff.2.2.2 rfl
  unfold isIn
  rw [hdirection]
  rfl

theorem StandardRequest.ofSetup_getDescriptor :
    ofSetup (.getDescriptor kind index language length) = some (.getDescriptor kind index) := by
  obtain ⟨hdirection, hclass, hrecipient⟩ :=
    (SetupPacket.getDescriptor kind index language length).requestType_iff.2.2.2 rfl
  unfold ofSetup
  rw [hdirection, hclass, hrecipient]
  show some (getDescriptor (Bytes.high (Bytes.word index kind))
    (Bytes.low (Bytes.word index kind))) = _
  rw [Bytes.high_word, Bytes.low_word]

end

namespace Emulated

variable {σ : Type} {e : Emulated σ}

/-- Whether a device answers a request for data with some bytes, as many of them as there is room
for. -/
structure Replies (e : Emulated σ) (setup : SetupPacket) (answer : Bytes) : Prop where
  isIn : setup.isIn = true
  serve : ∀ data s, e.serve setup data s = (e.answered data answer, s)

theorem replies_getDescriptor (e : Emulated σ) (kind index : UInt8) (language length : UInt16) :
    e.Replies (.getDescriptor kind index language length) (e.described kind index) := by
  refine ⟨SetupPacket.isIn_getDescriptor .., fun data s => ?_⟩
  rw [serve_of_standard (StandardRequest.ofSetup_getDescriptor kind index language length),
    e.described_eq]
  rfl

namespace Replies

variable {setup : SetupPacket} {answer : Bytes}

theorem controlCount_eq (h : e.Replies setup answer) (buffer : GuestBuffer) (m : Memory) (s : σ) :
    e.controlCount setup buffer m s = min answer.length (min setup.length.toNat buffer.len) := by
  have hlength : ((buffer.truncated setup.length.toNat).dataStage m true).length =
      min buffer.len setup.length.toNat := GuestBuffer.length_dataStage ..
  unfold controlCount
  dsimp only
  rw [length_data_serve, h.serve, h.isIn]
  show min (min answer.length ((buffer.truncated setup.length.toNat).dataStage m true).length)
    ((buffer.truncated setup.length.toNat).dataStage m true).length = _
  rw [hlength]
  omega

/-- The bytes moved are the first ones of the answer. -/
theorem byteAt_eq (h : e.Replies setup answer) (buffer : GuestBuffer) (v : Service) (s : σ)
    {m : Memory} {count : Nat} (hm : (e.controlTransfer setup buffer v s).2.1.memory = m)
    (hcount : min answer.length (min setup.length.toNat buffer.len) = count) :
    m.size = v.memory.size ∧ ∀ i, m.byteAt i =
      if buffer.addr.toNat ≤ i ∧ i < buffer.addr.toNat + count ∧ i < v.memory.size then
        answer.getD (i - buffer.addr.toNat) 0
      else v.memory.byteAt i := by
  obtain ⟨data, hlends, -, hconcluded⟩ := e.exists_lent setup buffer v s
  have hlength : data.length = min buffer.len setup.length.toNat := hlends.length_eq
  have hmin : min data.length answer.length = count := by omega
  rw [h.serve, h.isIn] at hconcluded
  have hmoved : min (min answer.length data.length) data.length = count := by omega
  change v.Concluded true buffer.addr (Bytes.overlay data answer)
    (min (min answer.length data.length) data.length) _ at hconcluded
  rw [hmoved, overlay_eq_of_min, hmin] at hconcluded
  subst hm
  refine ⟨hconcluded.size, fun i => ?_⟩
  rw [hconcluded.byteAt]
  by_cases hi : buffer.addr.toNat ≤ i ∧ i < buffer.addr.toNat + count ∧ i < v.memory.size
  · have hlt : i - buffer.addr.toNat < (answer.take count).length := by
      rw [List.length_take]
      omega
    rw [if_pos ⟨rfl, hi⟩, if_pos hi, List.getD_eq_getElem?_getD, List.getElem?_append_left hlt,
      List.getElem?_take_of_lt (by omega), ← List.getD_eq_getElem?_getD]
  · rw [if_neg hi]
    exact if_neg fun h => hi h.2

end Replies

end Emulated

/-! ## Devices that stay built -/

def Device.IsBuilt {σ : Type} : Device σ → Prop
  | .emulated e => e.Built
  | .passthrough _ | .external _ => True

/-- Whether a call brings no emulated device but one that was built. -/
def Operation.BringsBuilt {σ : Type} : Operation σ → Prop
  | .attach d => d.IsBuilt
  | _ => True

theorem Device.isBuilt_perform {σ : Type} {d : Device σ} (hd : d.IsBuilt) (host : Host σ) (s : σ)
    {call : DeviceCall} (hcall : call.OfBus) : (d.perform host s call).1.IsBuilt := by
  cases d with
  | emulated e =>
    have hd : e.Built := hd
    cases call with
    | setConfiguration value => exact hd.edit (.select e value)
    | controlTransfer setup buffer v => exact hd.edit (.request e setup _ s)
    | withState | setInterface => exact hcall.elim
    | _ => exact hd
  | passthrough | external => cases call <;> exact trivial

/-! ## The answer -/

namespace Scene

variable {σ : Type} {host : Host σ} {c c' : Scene σ}

theorem Reached.isBuilt {first : Scene σ} (h : Reached host (fun _ op => op.BringsBuilt) first c)
    (h0 : ∀ key d, first.bus.roster.get? key = some d → d.IsBuilt) {key : DeviceKey}
    {d : Device σ} (hd : c.bus.roster.get? key = some d) : d.IsBuilt := by
  refine h.moves (P := fun x => ∀ key d, x.1.get? key = some d → d.IsBuilt) h0 ?_
    (fun _ _ _ hx => hx) key d hd
  intro c op hop x y hm hx key d hd
  rcases hm.origin hd with hd₀ | ⟨d₀, call, hd₀, hcall, e⟩ | ⟨-, rfl⟩
  · exact hx key d hd₀
  · have hperform := Device.isBuilt_perform (hx key d₀ hd₀) host x.2 hcall.ofBus
    rw [e] at hperform
    exact hperform
  · exact hop

/-- Whether a transfer has brought the first bytes of an answer to guest memory, at an address, and
nothing else has changed there. The transfer is busy until its time has come, and then the next pump
ends it and it reports the number of these bytes. -/
structure Fetched (host : Host σ) (c c' : Scene σ) (id : TransferId) (addr : UInt64)
    (answer : Bytes) (count : Nat) (due : UInt64) : Prop where
  size : c'.bus.memory.size = c.bus.memory.size
  memory : ∀ i, c'.bus.memory.byteAt i =
    if addr.toNat ≤ i ∧ i < addr.toNat + count ∧ i < c.bus.memory.size then
      answer.getD (i - addr.toNat) 0
    else c.bus.memory.byteAt i
  reported : ∃ n : UInt32, n.toNat = count ∧
    ∀ c₁, Reached host (fun _ op => ∀ t, op = .pump t → t < due) c' c₁ →
      c₁.bus.transferResult id = .ok ⟨true, .completed, 0⟩ ∧
      ∀ t, due ≤ t → (c₁.bus.pump t).2.transferResult id = .ok ⟨false, .completed, n⟩

theorem Reached.pends {id : TransferId} {due : UInt64} {count : UInt32}
    (h : Reached host (fun _ op => ∀ t, op = .pump t → t < due) c c')
    (hc : c.bus.Pends id due count) : c'.bus.Pends id due count :=
  h.invariant (P := fun c => c.bus.Pends id due count) hc
    fun c _ hp hop => hp.call host c.world hop

section

variable {handle : Handle} {key : DeviceKey} {e : Emulated σ} {setup : SetupPacket}
  {buffer : GuestBuffer} {now : UInt64} {a : Dispatch}

/-- Guest memory after a submission is what the device has made of it while it served a transfer. -/
theorem memory_of_submitControl (hn : c.bus.pool.Named)
    (hd : c.bus.openedDevice handle = some (key, .emulated e))
    (hok : (c.bus.submitControl handle setup buffer now c.world).1 = .ok a) :
    ∃ v : Service, v.memory = c.bus.memory ∧
      (e.controlTransfer setup buffer v c.world).2.1.memory =
        (c.after host (.submitControl handle setup buffer now)).bus.memory := by
  have hop : (Operation.submitControl handle setup buffer now : Operation σ).target? =
    some handle := rfl
  obtain ⟨old, start, cursor, r, -, rfl, -, hcall⟩ :=
    Bus.call_of_openedDevice host c.world hn hd hop (congrArg Answer.dispatch hok)
  exact ⟨_, rfl, (congrArg (fun x => x.1.memory) hcall).symm⟩

/-- An accepted request for data brings the device's answer to the guest. -/
theorem fetched_of_ok (hn : c.bus.pool.Named)
    (hd : c.bus.openedDevice handle = some (key, .emulated e)) {answer : Bytes}
    (hanswer : e.Replies setup answer)
    (hok : (c.bus.submitControl handle setup buffer now c.world).1 = .ok a) :
    Fetched host c (c.after host (.submitControl handle setup buffer now)) a.id buffer.addr answer
      (min answer.length (min setup.length.toNat buffer.len))
      (Time.after now c.bus.latency.toNat) := by
  generalize hcount : min answer.length (min setup.length.toNat buffer.len) = count
  have hanswered : c.bus.Answered c.world (.submitControl handle setup buffer now) now count := by
    rw [← hcount, ← hanswer.controlCount_eq buffer c.bus.memory c.world]
    exact .control hd
  obtain ⟨-, hpends⟩ := Bus.pends_of_answered host hn hanswered (congrArg Answer.dispatch hok)
  obtain ⟨v, hv, hmemory⟩ := memory_of_submitControl hn hd hok
  obtain ⟨hsize, hbytes⟩ := hanswer.byteAt_eq buffer v c.world hmemory hcount
  rw [hv] at hsize hbytes
  refine ⟨hsize, hbytes, clampCount count, toNat_clampCount_of_lt hanswered.count_lt, ?_⟩
  intro c₁ hc₁
  have hp := hc₁.pends hpends
  exact ⟨hp.transferResult, fun t ht => hp.transferResult_pump ht⟩

theorem exists_fetched_of_idle (hn : c.bus.pool.Named)
    (hidle : ∃ id t, c.bus.pool.get? id = some t ∧ t.busy = false)
    (hd : c.bus.openedDevice handle = some (key, .emulated e)) {answer : Bytes}
    (hanswer : e.Replies setup answer) (buffer : GuestBuffer) (now : UInt64) :
    ∃ a, (c.bus.submitControl handle setup buffer now c.world).1 = .ok a ∧
      Fetched host c (c.after host (.submitControl handle setup buffer now)) a.id buffer.addr
        answer (min answer.length (min setup.length.toNat buffer.len))
        (Time.after now c.bus.latency.toNat) := by
  obtain ⟨id, t, ht, hfree⟩ := hidle
  obtain ⟨u, q, hslot⟩ := TransferPool.exists_allocate_of_idle ht hfree
  obtain ⟨a, ha⟩ := Bus.exists_ok_of_allocate c.world now {}
    (fun d v s => d.controlTransfer setup buffer v s) hd hslot
  exact ⟨a, ha, fetched_of_ok hn hd hanswer ha⟩

end

/-- **Answers to GET_DESCRIPTOR describe themselves and reach the guest from the start.** Whatever
was done to a device since it was made, and whichever descriptor it is asked for, what it writes
into 255 bytes is nothing or one whole descriptor of the kind asked for, its length in the first
byte. Of this it writes as much as there is room for, and touches nothing behind. Such devices stay
so on a bus, whatever calls are made of it: there a request is accepted if a slot is idle, brings to
guest memory as much of the answer as the setup packet and the buffer leave room for, and reports
that number of bytes when it has ended. -/
theorem descriptor_of_built (host : Host σ) :
    (∀ d : Emulated σ, d.Built → ∀ kind index,
      (d.described kind index = [] ∨ (d.described kind index).IsDescriptor kind) ∧
        d.Answers kind index (d.described kind index)) ∧
    ∀ {n : Nat} {latency : UInt64} {memory : Memory} {world : σ} {c : Scene σ},
      n ≤ UInt32.size →
      Reached host (fun _ op => op.BringsBuilt) ⟨Bus.empty n latency memory, world, []⟩ c →
      ∀ {handle : Handle} {key : DeviceKey} {e : Emulated σ},
        c.bus.openedDevice handle = some (key, .emulated e) →
        e.Built ∧ ((∃ id t, c.bus.pool.get? id = some t ∧ t.busy = false) →
          ∀ (kind index : UInt8) (language length : UInt16) (buffer : GuestBuffer) (now : UInt64),
            ∃ a, (c.bus.submitControl handle (.getDescriptor kind index language length) buffer now
                c.world).1 = .ok a ∧
              Fetched host c (c.after host (.submitControl handle
                  (.getDescriptor kind index language length) buffer now)) a.id buffer.addr
                (e.described kind index)
                (min (e.described kind index).length (min length.toNat buffer.len))
                (Time.after now c.bus.latency.toNat)) := by
  refine ⟨fun d hd kind index => ⟨hd.isDescriptor_described kind index,
    d.answers_described kind index⟩, ?_⟩
  intro n latency memory world c hn h handle key e hd
  have hnamed := h.named (TransferPool.named_ofCapacity hn)
  refine ⟨h.isBuilt (fun _ _ hd => nomatch hd) (Bus.roster_of_openedDevice hd), ?_⟩
  intro hidle kind index language length buffer now
  exact exists_fetched_of_idle hnamed hidle hd
    (e.replies_getDescriptor kind index language length) buffer now

def greeter : Emulated Unit := (Emulated.ofDescriptor {} default).addString "hi"

theorem built_greeter : greeter.Built := .ofDescriptor {} default (.single (.string _ "hi"))

def greeting : Scene Unit :=
  (blank.after .none (.attach (.emulated greeter))).after .none (.openRecord default)

theorem reached_greeting : Reached Host.none (fun _ op => op.BringsBuilt) blank greeting :=
  (Reached.first.after _ built_greeter).after _ trivial

/-- Of the six bytes of the descriptor there is memory for four, and the guest is told of six. -/
theorem descriptor_of_greeting :
    (greeter.described 3 1).IsDescriptor 3 ∧
    (∃ t, greeting.bus.pool.get? ⟨0⟩ = some t ∧ t.busy = false) ∧
    ∃ a, (greeting.bus.submitControl default (.getDescriptor 3 1 0x0409 255) ⟨12, 64⟩ 0 ()).1 =
        .ok a ∧
      let c := greeting.after .none
        (.submitControl default (.getDescriptor 3 1 0x0409 255) ⟨12, 64⟩ 0)
      [12, 13, 14, 15].map c.bus.memory.byteAt = [6, 3, 104, 0] ∧
        (c.bus.pump 0).2.transferResult a.id = .ok ⟨false, .completed, 6⟩ := by
  obtain ⟨hdescribed, hbus⟩ := descriptor_of_built Host.none
  obtain ⟨hwhole, -⟩ := hdescribed greeter built_greeter 3 1
  have hanswer : greeter.described 3 1 = [6, 3, 104, 0, 105, 0] := greeter.described_eq 3 1
  have hidle : ∃ t, greeting.bus.pool.get? ⟨0⟩ = some t ∧ t.busy = false := ⟨_, rfl, rfl⟩
  have hopened : greeting.bus.openedDevice default = some (⟨0⟩, .emulated greeter) := rfl
  obtain ⟨a, ha, hfetched⟩ := (hbus (by decide) reached_greeting hopened).2 ⟨_, hidle⟩ 3 1 0x0409
    255 ⟨12, 64⟩ 0
  rw [hanswer] at hfetched
  obtain ⟨n, hn, hrun⟩ := hfetched.reported
  obtain rfl : n = 6 := UInt32.toNat_inj.1 hn
  refine ⟨hwhole.resolve_left (hanswer ▸ List.cons_ne_nil 6 _), hidle, a, ha, ?_,
    (hrun _ .first).2 0 (by decide)⟩
  simp only [List.map_cons, List.map_nil, hfetched.memory]
  decide

end Scene

end VirtualUsb
