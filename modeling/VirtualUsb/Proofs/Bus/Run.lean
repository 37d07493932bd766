import VirtualUsb.Bus.Open
import VirtualUsb.Bus.Requests
import VirtualUsb.Bus.Transfers

/-!
# Runs of a bus

`Operation` lists the calls of a bus, `Bus.call` carries one out. A `Scene` is a bus in its world
together with its past; `Scene.Reached` holds of the scenes that allowed calls lead to, so a claim
about every run is a claim about every scene reached.
-/

namespace VirtualUsb

/-- A call of the bus by its owner, by a guest or by the host that reports. In `store` the guest
writes its own memory, in `elapse` nothing happens but that the world moves on. -/
inductive Operation (σ : Type) where
  | newLocation
  | attach (device : Device σ)
  | reattach (handle : Handle)
  | letGo (handle : Handle)
  | enumerate
  | openRecord (record : DeviceRecord)
  | openByIds (vendorId productId : UInt16)
  | disconnect (handle : Handle) (remove : Bool)
  | checkConnected (handle : Handle)
  | claim (handle : Handle) (interface : UInt8)
  | release (handle : Handle) (interface : UInt8)
  | getConfiguration (handle : Handle)
  | setConfiguration (handle : Handle) (value : UInt8)
  | setAlternate (handle : Handle) (interface setting : UInt8)
  | configDescriptor (location : Location) (index : UInt8)
  | maxPacketSize (location : Location) (endpoint : UInt8)
  | submitControl (handle : Handle) (setup : SetupPacket) (buffer : GuestBuffer) (now : UInt64)
  | submitInterrupt (handle : Handle) (endpoint : UInt8) (buffer : GuestBuffer) (now : UInt64)
  | submitIsochronous (handle : Handle) (request : IsoRequest) (now : UInt64)
  | complete (completion : Completion)
  | fail (id : TransferId) (error : HostError)
  | pump (now : UInt64)
  | clear
  | store (addr : UInt64) (data : Bytes)
  | elapse (world : σ)

/-- What a call gives back. -/
inductive Answer where
  | done
  | location (location : Option Location)
  | enumeration (enumeration : Enumeration)
  | handle (answer : Except UsbError Handle)
  | agreed (answer : Except UsbError Unit)
  | byte (answer : Except UsbError UInt8)
  | word (answer : Except UsbError UInt16)
  | bytes (answer : Except UsbError Bytes)
  | dispatch (answer : Except UsbError Dispatch)
  | count (count : Nat)

namespace Bus

variable {σ : Type} (host : Host σ)

def call (b : Bus σ) (s : σ) : Operation σ → Answer × Bus σ × σ
  | .newLocation => (.location b.newLocation.1, b.newLocation.2, s)
  | .attach d => (.location d.state.location, (b.attach host d s).2)
  | .reattach h => let r := b.reattach host h s; (.location r.1, r.2)
  | .letGo h => (.done, b.letGo host h s)
  | .enumerate => let r := b.enumerate host s; (.enumeration r.1, r.2)
  | .openRecord record => let r := b.openRecord host record s; (.handle r.1, r.2)
  | .openByIds vendorId productId =>
    let r := b.openByIds host vendorId productId s
    (.handle r.1, r.2)
  | .disconnect h remove => (.done, b.disconnect host h remove s)
  | .checkConnected h => let r := b.checkConnected host h s; (.agreed r.1, b, r.2)
  | .claim h interface => let r := b.claim host h interface s; (.agreed r.1, r.2)
  | .release h interface => let r := b.release host h interface s; (.agreed r.1, r.2)
  | .getConfiguration h => let r := b.getConfiguration host h s; (.byte r.1, b, r.2)
  | .setConfiguration h value => let r := b.setConfiguration host h value s; (.agreed r.1, r.2)
  | .setAlternate h interface setting =>
    let r := b.setAlternate host h interface setting s
    (.agreed r.1, b, r.2)
  | .configDescriptor location index =>
    let r := b.configDescriptor host location index s
    (.bytes r.1, r.2)
  | .maxPacketSize location endpoint =>
    let r := b.maxPacketSize host location endpoint s
    (.word r.1, r.2)
  | .submitControl h setup buffer now =>
    let r := b.submitControl h setup buffer now s
    (.dispatch r.1, r.2)
  | .submitInterrupt h endpoint buffer now =>
    let r := b.submitInterrupt h endpoint buffer now s
    (.dispatch r.1, r.2)
  | .submitIsochronous h request now =>
    let r := b.submitIsochronous h request now s
    (.dispatch r.1, r.2)
  | .complete c => (.done, b.complete host c s)
  | .fail id e => (.done, b.fail id e, s)
  | .pump now => let r := b.pump now; (.count r.1, r.2, s)
  | .clear => (.done, b.clear host s)
  | .store addr data => (.done, { b with memory := b.memory.write addr data }, s)
  | .elapse world => (.done, b, world)

end Bus

/-! ## The past -/

def Operation.submits {σ : Type} : Operation σ → Option TransferKind
  | .submitControl .. => some .control
  | .submitInterrupt .. => some .interrupt
  | .submitIsochronous .. => some .isochronous
  | _ => none

/-- The calls made so far with their answers, the latest first. -/
abbrev Past (σ : Type) := List (Operation σ × Answer)

namespace Past

variable {σ : Type}

/-- The transfer that a call was accepted as, with its kind. -/
def acceptedBy : Operation σ × Answer → Option (TransferKind × Dispatch)
  | (op, .dispatch (.ok d)) => op.submits.map (·, d)
  | _ => none

/-- The transfers accepted so far, the latest first. -/
def accepted (past : Past σ) : List (TransferKind × Dispatch) := past.filterMap acceptedBy

/-- The kind of the transfer that a slot was last claimed for. -/
def kindOf (past : Past σ) (id : TransferId) : Option TransferKind :=
  (past.accepted.find? (·.2.id = id)).map (·.1)

/-- How often a slot was claimed. -/
def claims (past : Past σ) (id : TransferId) : Nat := past.accepted.countP (·.2.id = id)

variable {past : Past σ} {op : Operation σ} {kind : TransferKind} {d : Dispatch}

theorem acceptedBy_of_submits_none (h : op.submits = none) (a : Answer) :
    acceptedBy (op, a) = none := by
  cases a with
  | dispatch answer =>
    cases answer with
    | error => rfl
    | ok d =>
      show op.submits.map (·, d) = none
      rw [h]
      rfl
  | _ => rfl

theorem acceptedBy_of_ok (h : op.submits = some kind) :
    acceptedBy (op, .dispatch (.ok d)) = some (kind, d) := by
  show op.submits.map (·, d) = _
  rw [h]
  rfl

theorem eq_of_acceptedBy {a : Answer} (h : acceptedBy (op, a) = some (kind, d)) :
    op.submits = some kind ∧ a = .dispatch (.ok d) := by
  cases a with
  | dispatch answer =>
    cases answer with
    | error => exact nomatch h
    | ok x =>
      obtain ⟨k, hk, e⟩ := Option.map_eq_some_iff.1 h
      obtain ⟨rfl, rfl⟩ := Prod.mk.inj e
      exact ⟨hk, rfl⟩
  | _ => exact nomatch h

theorem accepted_of_ok (h : op.submits = some kind) :
    accepted ((op, .dispatch (.ok d)) :: past) = (kind, d) :: past.accepted :=
  List.filterMap_cons_some (acceptedBy_of_ok h)

theorem kindOf_cons_of_ne {x : Operation σ × Answer} {id : TransferId}
    (h : ∀ kind d, acceptedBy x = some (kind, d) → d.id ≠ id) :
    kindOf (x :: past) id = past.kindOf id := by
  unfold kindOf accepted
  cases hx : acceptedBy x with
  | none => rw [List.filterMap_cons_none hx]
  | some r =>
    rw [List.filterMap_cons_some hx, List.find?_cons_of_neg]
    rw [decide_eq_true_eq]
    exact h r.1 r.2 hx

theorem claims_cons_of_ne {x : Operation σ × Answer} {id : TransferId}
    (h : ∀ kind d, acceptedBy x = some (kind, d) → d.id ≠ id) :
    claims (x :: past) id = past.claims id := by
  unfold claims accepted
  cases hx : acceptedBy x with
  | none => rw [List.filterMap_cons_none hx]
  | some r =>
    rw [List.filterMap_cons_some hx, List.countP_cons_of_neg]
    rw [decide_eq_true_eq]
    exact h r.1 r.2 hx

theorem kindOf_of_submits_none (h : op.submits = none) (a : Answer) :
    kindOf ((op, a) :: past) = past.kindOf := by
  funext id
  apply kindOf_cons_of_ne
  intro k d hd
  rw [acceptedBy_of_submits_none h] at hd
  exact nomatch hd

theorem kindOf_of_ok (h : op.submits = some kind) :
    kindOf ((op, .dispatch (.ok d)) :: past) =
      fun id => if d.id = id then some kind else past.kindOf id := by
  funext id
  unfold kindOf
  rw [accepted_of_ok h, List.find?_cons]
  by_cases hd : d.id = id <;> simp [hd]

end Past

/-- A bus in its world, with its past. -/
structure Scene (σ : Type) where
  bus : Bus σ
  world : σ
  past : Past σ := []

namespace Scene

variable {σ : Type} (host : Host σ)

def after (c : Scene σ) (op : Operation σ) : Scene σ :=
  let r := c.bus.call host c.world op
  ⟨r.2.1, r.2.2, (op, r.1) :: c.past⟩

/-- The scenes that calls lead to, each of which was allowed in the scene in which it was made. -/
inductive Reached (allowed : Scene σ → Operation σ → Prop) (first : Scene σ) : Scene σ → Prop
  | first : Reached allowed first first
  | after {c : Scene σ} (op : Operation σ) :
    Reached allowed first c → allowed c op → Reached allowed first (c.after host op)

/-- What holds at first and is kept by every allowed call holds of every scene reached. -/
theorem Reached.invariant {host : Host σ} {allowed : Scene σ → Operation σ → Prop}
    {first c : Scene σ} {P : Scene σ → Prop} (hc : Reached host allowed first c) (h0 : P first)
    (hstep : ∀ c op, P c → allowed c op → P (c.after host op)) : P c := by
  induction hc with
  | first => exact h0
  | after op _ ha ih => exact hstep _ op ih ha

theorem Reached.mono {host : Host σ} {allowed allowed' : Scene σ → Operation σ → Prop}
    {first c : Scene σ} (hc : Reached host allowed first c)
    (h : ∀ c op, allowed c op → allowed' c op) : Reached host allowed' first c := by
  induction hc with
  | first => exact .first
  | after op _ ha ih => exact ih.after op (h _ op ha)

theorem Reached.trans {host : Host σ} {allowed : Scene σ → Operation σ → Prop}
    {first c c' : Scene σ} (hc : Reached host allowed first c) (hc' : Reached host allowed c c') :
    Reached host allowed first c' := by
  induction hc' with
  | first => exact hc
  | after op _ ha ih => exact ih.after op ha

end Scene

end VirtualUsb
