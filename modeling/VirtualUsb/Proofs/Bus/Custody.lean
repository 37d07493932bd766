import VirtualUsb.Proofs.Bus.Departure
import VirtualUsb.Proofs.Bus.Opened

/-!
# What a handle drives

Calls find their device by the location of a handle, among the devices that are open. What they find
there they deal with by its own methods (`Bus.drives_of_openedDevice`), and if they find nothing
they are refused up front (`Bus.refuses_of_openedDevice`). If no two devices were attached for one
place, what they find is the device that the handle was opened for (`Scene.custody_of_reached`).
-/

namespace VirtualUsb

/-- The handle through which a call deals with a device. -/
def Operation.through? {σ : Type} : Operation σ → Option Handle
  | .claim h _ | .release h _ | .getConfiguration h | .setConfiguration h _ => some h
  | .setAlternate h _ _ => some h
  | op => op.target?

theorem Operation.target?_of_through? {σ : Type} {op : Operation σ} {h : Handle}
    (hop : op.through? = some h) (hsubmits : op.submits.isSome = true) : op.target? = some h := by
  cases op with
  | submitControl | submitInterrupt | submitIsochronous => exact hop
  | _ => exact nomatch hsubmits

/-- A submission has the device serve the transfer by one of its methods. -/
theorem Operation.exists_deviceCall {σ : Type} (host : Host σ) {op : Operation σ} {h : Handle}
    (hop : op.target? = some h) :
    ∃ call : Service → DeviceCall, (∀ v, (call v).OfBus) ∧
      ∀ d v s, d.perform host s (call v) = ((op.serve d v s).1, (op.serve d v s).2.2) := by
  cases op with
  | submitControl _ setup buffer =>
    exact ⟨.controlTransfer setup buffer, fun _ => trivial, fun _ _ _ => rfl⟩
  | submitInterrupt _ endpoint buffer =>
    exact ⟨.interruptTransfer endpoint buffer, fun _ => trivial, fun _ _ _ => rfl⟩
  | submitIsochronous => exact ⟨.isochronousTransfer, fun _ => trivial, fun _ _ _ => rfl⟩
  | _ => exact nomatch hop

def Answer.error? : Answer → Option UsbError
  | .handle (.error e) | .agreed (.error e) | .byte (.error e) | .word (.error e) => some e
  | .bytes (.error e) | .dispatch (.error e) => some e
  | _ => none

namespace Bus

variable {σ : Type} (host : Host σ) {b : Bus σ} (s : σ) {op : Operation σ} {h : Handle}
  {key : DeviceKey} {d : Device σ}

/-! ## Dealing with an open device -/

/-- Whether a call has dealt with the devices of a bus by methods of one of them alone, and left the
lists of devices as they were. -/
structure Drives (b : Bus σ) (key : DeviceKey) (d : Device σ) (r : Bus σ × σ) : Prop where
  acts : ∃ calls : List DeviceCall, calls ≠ [] ∧ (∀ call ∈ calls, call.OfBus) ∧
    r.1.roster = b.roster.set key (d.performAll host s calls).1 ∧
    r.2 = (d.performAll host s calls).2
  attached : r.1.attached = b.attached
  opened : r.1.opened = b.opened
  held : r.1.held = b.held

theorem Drives.get?_of_ne {r : Bus σ × σ} (h : b.Drives host s key d r)
    (hd : b.roster.get? key = some d) {key' : DeviceKey} (hne : key' ≠ key) :
    r.1.roster.get? key' = b.roster.get? key' := by
  obtain ⟨calls, -, -, hroster, -⟩ := h.acts
  rw [hroster, Roster.get?_set_of_get? hd]
  exact if_neg hne.symm

theorem drives_of_call (call : DeviceCall) (hcall : call.OfBus) :
    b.Drives host s key d
      (b.withDevice key (d.perform host s call).1, (d.perform host s call).2) where
  acts := ⟨[call], nofun, fun _ hc => List.mem_singleton.1 hc ▸ hcall, rfl, rfl⟩
  attached := rfl
  opened := rfl
  held := rfl

theorem drives_of_ask (hd : b.roster.get? key = some d) (call : DeviceCall) (hcall : call.OfBus)
    (hsame : (d.perform host s call).1 = d) :
    b.Drives host s key d (b, (d.perform host s call).2) := by
  have h : b.Drives host s key d
      (b.withDevice key (d.perform host s call).1, (d.perform host s call).2) :=
    drives_of_call host s call hcall
  have hb : b.withDevice key d = b :=
    congrArg (fun r => { b with roster := r }) (Roster.set_eq_self hd)
  rwa [hsame, hb] at h

/-- A submission that finds the device open lets it serve the transfer, unless there is no slot for
it. -/
theorem drives_of_dispatch (hd : b.openedDevice h = some (key, d)) (now : UInt64) (iso : IsoRequest)
    {serve : Device σ → Service → σ → Device σ × Service × σ} (call : Service → DeviceCall)
    (hcall : ∀ v, (call v).OfBus)
    (hserve : ∀ d v s, d.perform host s (call v) = ((serve d v s).1, (serve d v s).2.2)) :
    b.Drives host s key d (b.dispatch h now iso serve s).2 ∨
      b.pool.allocate = none ∧ b.dispatch h now iso serve s = (.error .busy, b, s) := by
  unfold dispatch
  rw [hd]
  dsimp only
  cases b.pool.allocate with
  | none => exact .inr ⟨rfl, rfl⟩
  | some r =>
    let v := b.serviceOf (prepare r.1 h iso) now
    have hv : d.perform host s (call v) = ((serve d v s).1, (serve d v s).2.2) := hserve d v s
    refine .inl ⟨⟨[call v], nofun, fun c hc => List.mem_singleton.1 hc ▸ hcall v, ?_, ?_⟩, rfl, rfl,
      rfl⟩
    · exact congrArg (b.roster.set key ·.1) hv.symm
    · exact congrArg Prod.snd hv.symm

/-- Whether a call submits a transfer for which there is no slot, and is turned away for that
reason. -/
structure TurnsAway (b : Bus σ) (op : Operation σ) : Prop where
  submits : op.submits.isSome = true
  full : b.pool.allocate = none
  call : b.call host s op = (.dispatch (.error .busy), b, s)

theorem drives_of_target (hd : b.openedDevice h = some (key, d)) (hop : op.target? = some h)
    (hsize : ¬ op.IsOversized) :
    b.Drives host s key d (b.call host s op).2 ∨ b.TurnsAway host s op := by
  obtain ⟨now, hcall⟩ := call_of_target (b := b) host s hop hsize
  obtain ⟨call, hbus, hserve⟩ := Operation.exists_deviceCall host hop
  rcases drives_of_dispatch host s hd now op.isoRequest call hbus hserve with
    hdrives | ⟨hfull, hbusy⟩
  · left
    rwa [hcall]
  · right
    exact ⟨op.isSome_submits hop, hfull, by rw [hcall, hbusy]⟩

/-- A call that finds the device of its handle open deals with that device, unless it submits a
transfer and there is no slot for it. -/
theorem drives_of_openedDevice (hd : b.openedDevice h = some (key, d)) (hop : op.through? = some h)
    (hsize : ¬ op.IsOversized) :
    b.Drives host s key d (b.call host s op).2 ∨ b.TurnsAway host s op := by
  have hget := roster_of_openedDevice hd
  cases op with
  | claim h' interface =>
    obtain rfl := Option.some.inj hop
    left
    show b.Drives host s key d (b.claim host h' interface s).2
    rw [claim_of_openedDevice host s hd]
    exact ⟨⟨[.readDescriptors, .claim interface], nofun, by simp [DeviceCall.OfBus], rfl, rfl⟩,
      rfl, rfl, rfl⟩
  | release h' interface =>
    obtain rfl := Option.some.inj hop
    left
    show b.Drives host s key d (b.release host h' interface s).2
    rw [release_of_openedDevice host s hd]
    exact drives_of_call host s (.release interface) trivial
  | getConfiguration h' =>
    obtain rfl := Option.some.inj hop
    left
    show b.Drives host s key d (b, (b.getConfiguration host h' s).2)
    rw [getConfiguration_of_openedDevice host s hd]
    exact drives_of_ask host s hget (.getConfiguration 1) trivial rfl
  | setConfiguration h' value =>
    obtain rfl := Option.some.inj hop
    left
    show b.Drives host s key d (b.setConfiguration host h' value s).2
    rw [setConfiguration_of_openedDevice host s hd]
    exact drives_of_call host s (.setConfiguration value) trivial
  | setAlternate h' interface setting =>
    obtain rfl := Option.some.inj hop
    left
    show b.Drives host s key d (b, (b.setAlternate host h' interface setting s).2)
    rw [setAlternate_of_openedDevice host s hd]
    exact drives_of_ask host s hget (.setAlternate interface setting) trivial rfl
  | submitControl | submitInterrupt | submitIsochronous =>
    exact drives_of_target host s hd (Operation.target?_of_through? hop rfl) hsize
  | _ => exact nomatch hop

/-! ## Refusing up front -/

/-- Whether a call reports that there is no device and changes nothing, whatever the host and its
world are. -/
def Refuses (b : Bus σ) (op : Operation σ) : Prop :=
  ∀ (host : Host σ) (s : σ), ∃ a : Answer, b.call host s op = (a, b, s) ∧ a.error? = some .noDevice

theorem refuses_of_openedDevice (hd : b.openedDevice h = none) (hop : op.through? = some h)
    (hsize : ¬ op.IsOversized) : b.Refuses op := by
  intro host s
  cases op with
  | claim h' interface =>
    obtain rfl := Option.some.inj hop
    have hr : b.claim host h' interface s = (.error .noDevice, b, s) := by
      unfold claim
      rw [hd]
    exact ⟨_, congrArg (fun r => (Answer.agreed r.1, r.2)) hr, rfl⟩
  | release h' interface =>
    obtain rfl := Option.some.inj hop
    have hr : b.release host h' interface s = (.error .noDevice, b, s) := by
      unfold release
      rw [hd]
    exact ⟨_, congrArg (fun r => (Answer.agreed r.1, r.2)) hr, rfl⟩
  | getConfiguration h' =>
    obtain rfl := Option.some.inj hop
    have hr : b.getConfiguration host h' s = (.error .noDevice, s) := by
      unfold getConfiguration
      rw [hd]
    exact ⟨_, congrArg (fun r => (Answer.byte r.1, b, r.2)) hr, rfl⟩
  | setConfiguration h' value =>
    obtain rfl := Option.some.inj hop
    have hr : b.setConfiguration host h' value s = (.error .noDevice, b, s) := by
      unfold setConfiguration
      rw [hd]
    exact ⟨_, congrArg (fun r => (Answer.agreed r.1, r.2)) hr, rfl⟩
  | setAlternate h' interface setting =>
    obtain rfl := Option.some.inj hop
    have hr : b.setAlternate host h' interface setting s = (.error .noDevice, s) := by
      unfold setAlternate
      rw [hd]
    exact ⟨_, congrArg (fun r => (Answer.agreed r.1, b, r.2)) hr, rfl⟩
  | submitControl | submitInterrupt | submitIsochronous =>
    obtain ⟨now, hcall⟩ := call_of_target host s (Operation.target?_of_through? hop rfl) hsize
    rw [hcall, dispatch_of_openedDevice_eq_none s now _ _ hd]
    exact ⟨_, rfl, rfl⟩
  | _ => exact nomatch hop

end Bus

/-- A host that agrees to whatever is asked of an open device. -/
def Host.willing {σ : Type} : Host σ :=
  { Host.none with
    claim _ _ s := (.ok (), s)
    release _ _ s := (.ok (), s)
    setAlternate _ _ _ s := (.ok (), s) }

namespace Device

variable {σ : Type} (d : Device σ) (s : σ)

/-- Whether a device that stands for a device of the host holds a host handle. -/
def IsReady (d : Device σ) : Prop := d.identity.IsPassthrough → d.hostHandle?.isSome = true

theorem IsReady.of_bearing_eq {d d' : Device σ} (h : d.IsReady) (e : d'.bearing = d.bearing) :
    d'.IsReady := by
  intro hp
  have hhandle : d'.hostHandle? = d.hostHandle? := congrArg Bearing.handle e
  rw [hhandle]
  refine h ?_
  rwa [← show d'.identity = d.identity from congrArg Bearing.identity e]

theorem claim_willing (h : d.IsReady) (interface : UInt8) :
    (d.claim .willing interface s).1 ≠ .error .noDevice := by
  cases d with
  | passthrough p =>
    obtain ⟨handle, hp⟩ := Option.isSome_iff_exists.1 (h trivial)
    change p.handle = some handle at hp
    show (p.claim .willing interface s).1 ≠ _
    unfold Passthrough.claim
    rw [hp]
    split
    · exact nofun
    · dsimp only
      split
      · exact nofun
      · exact nofun
  | emulated | external =>
    show (if _ then _ else _) ≠ _
    split <;> exact nofun

theorem release_willing (h : d.IsReady) (interface : UInt8) :
    (d.release .willing interface s).1 ≠ .error .noDevice := by
  cases d with
  | passthrough p =>
    obtain ⟨handle, hp⟩ := Option.isSome_iff_exists.1 (h trivial)
    change p.handle = some handle at hp
    show (p.release .willing interface s).1 ≠ _
    unfold Passthrough.release
    rw [hp]
    exact nofun
  | emulated | external => exact nofun

theorem setAlternate_willing (h : d.IsReady) (interface setting : UInt8) :
    (d.setAlternate .willing interface setting s).1 ≠ .error .noDevice := by
  cases d with
  | passthrough p =>
    obtain ⟨handle, hp⟩ := Option.isSome_iff_exists.1 (h trivial)
    change p.handle = some handle at hp
    show (p.setAlternate .willing interface setting s).1 ≠ _
    unfold Passthrough.setAlternate
    rw [hp]
    exact nofun
  | emulated | external => exact nofun

end Device

namespace Bus

variable {σ : Type} {b : Bus σ} {op : Operation σ} {h : Handle} {key : DeviceKey} {d : Device σ}

theorem error?_dispatch_ne (hd : b.openedDevice h = some (key, d)) (now : UInt64)
    (iso : IsoRequest) (serve : Device σ → Service → σ → Device σ × Service × σ) (s : σ) :
    (Answer.dispatch (b.dispatch h now iso serve s).1).error? ≠ some .noDevice := by
  cases hr : b.pool.allocate with
  | none =>
    rw [dispatch_of_allocate_eq_none s now iso serve hd hr]
    exact nofun
  | some r =>
    obtain ⟨a, ha⟩ := exists_ok_of_allocate s now iso serve hd hr
    rw [ha]
    exact nofun

theorem not_refuses_of_openedDevice (hd : b.openedDevice h = some (key, d)) (hready : d.IsReady)
    (hop : op.through? = some h) (hsize : ¬ op.IsOversized) (s : σ) : ¬ b.Refuses op := by
  intro hrefuses
  -- a host that agrees to everything gives no reason to refuse
  obtain ⟨a, ha, herror⟩ := hrefuses .willing s
  rw [← show (b.call .willing s op).1 = a from congrArg Prod.fst ha] at herror
  have hagreed {r : Except UsbError Unit} (hr : r ≠ .error .noDevice) :
      (Answer.agreed r).error? ≠ some .noDevice := by
    cases r with
    | ok => exact nofun
    | error e => exact fun h => hr (congrArg Except.error (Option.some.inj h))
  revert herror
  cases op with
  | claim h' interface =>
    obtain rfl := Option.some.inj hop
    show (Answer.agreed (b.claim .willing h' interface s).1).error? ≠ _
    rw [claim_of_openedDevice .willing s hd]
    have hread := hready.of_bearing_eq (d.bearing_readDescriptors .willing s)
    exact hagreed (Device.claim_willing _ _ hread interface)
  | release h' interface =>
    obtain rfl := Option.some.inj hop
    show (Answer.agreed (b.release .willing h' interface s).1).error? ≠ _
    rw [release_of_openedDevice .willing s hd]
    exact hagreed (d.release_willing s hready interface)
  | setAlternate h' interface setting =>
    obtain rfl := Option.some.inj hop
    show (Answer.agreed (b.setAlternate .willing h' interface setting s).1).error? ≠ _
    rw [setAlternate_of_openedDevice .willing s hd]
    exact hagreed (d.setAlternate_willing s hready interface setting)
  | setConfiguration h' value =>
    obtain rfl := Option.some.inj hop
    show (Answer.agreed (b.setConfiguration .willing h' value s).1).error? ≠ _
    rw [setConfiguration_of_openedDevice .willing s hd]
    dsimp only
    split
    · exact nofun
    · exact nofun
  | getConfiguration h' =>
    obtain rfl := Option.some.inj hop
    show (Answer.byte (b.getConfiguration .willing h' s).1).error? ≠ _
    rw [getConfiguration_of_openedDevice .willing s hd]
    cases (d.getConfiguration .willing 1 s).1 with
    | nil => exact nofun
    | cons => exact nofun
  | submitControl | submitInterrupt | submitIsochronous =>
    obtain ⟨now, hcall⟩ := call_of_target .willing s (Operation.target?_of_through? hop rfl) hsize
    rw [hcall]
    exact error?_dispatch_ne hd now _ _ s
  | _ => exact nomatch hop

/-! ## Which device is meant -/

/-- The attachment that a call means which opens a device. -/
def meant? (b : Bus σ) (host : Host σ) (s : σ) : Operation σ → Option Attachment
  | .openRecord r => b.resolve r
  | .openByIds vendorId productId =>
    ((b.enumerate host s).1.findByIds vendorId productId).bind b.resolve
  | _ => none

variable (host : Host σ) (s : σ)

theorem resolve_of_openRecord {r : DeviceRecord} (hok : (b.openRecord host r s).1 = .ok h) :
    b.resolve r = some h.attachment ∧ (b.roster.get? h.key).isSome = true := by
  unfold openRecord at hok
  split at hok
  · exact nomatch hok
  · rename_i a ha
    split at hok
    · exact nomatch hok
    · rename_i d hd
      generalize d.openForUse host s = out at hok
      obtain ⟨_ | _, d', s'⟩ := out
      · exact nomatch hok
      · obtain rfl := Except.ok.inj hok
        exact ⟨ha, Option.isSome_of_eq_some hd⟩

/-- A handle names the device that the call meant which handed it out. -/
theorem meant_of_handle (hok : (b.call host s op).1 = .handle (.ok h)) :
    b.meant? host s op = some h.attachment ∧ (b.roster.get? h.key).isSome = true := by
  cases op with
  | openRecord r => exact resolve_of_openRecord host s (Answer.handle.inj hok)
  | openByIds vendorId productId =>
    have hok : (b.openByIds host vendorId productId s).1 = .ok h := Answer.handle.inj hok
    have hrecast := (recast_enumerate host b s).lineup
    have hattached : (b.enumerate host s).2.1.attached = b.attached :=
      congrArg Lineup.attached hrecast
    show Option.bind _ b.resolve = _ ∧ _
    unfold openByIds at hok
    dsimp only at hok
    split at hok
    · exact nomatch hok
    · rename_i r hr
      obtain ⟨hresolve, hsome⟩ := resolve_of_openRecord host _ hok
      constructor
      · rw [hr]
        refine Eq.trans ?_ hresolve
        show b.resolve r = (b.enumerate host s).2.1.resolve r
        unfold resolve atBusNumber
        rw [hattached]
      · rwa [← isSome_bearing?, ← hrecast, isSome_bearing?]
  | _ => exact nomatch hok

/-! ## Where the device stands -/

variable {places : List Location}

theorem Settled.openedDevice_of_hasOpen (hb : b.Settled places)
    (hplace : places[h.key.index]? = some h.location) (hopen : b.HasOpen h.key) :
    ∃ d, b.openedDevice h = some (h.key, d) ∧ d.IsReady :=
  exists_openedDevice hb.lineup.toCoherent ((hb.hasOpen_iff hplace).1 hopen) rfl

/-- If no two devices were attached for one place, nothing is found through a handle of a device
that is not open. -/
theorem Settled.openedDevice_of_not_hasOpen (hb : b.Settled places) (hnodup : places.Nodup)
    (hplace : places[h.key.index]? = some h.location) (hclosed : ¬ b.HasOpen h.key) :
    b.openedDevice h = none := by
  refine (openedDevice_eq_none_iff hb.lineup.toCoherent).2 fun a ha hl => hclosed ⟨a, ha, ?_⟩
  exact (hb.lineup.eq_of_place hnodup (hb.lineup.known a ha) hplace).1 hl

/-- Whether the calls through a handle come to the device that it names, which is and stays the one
with a given identity, or to none. -/
structure Custody (b : Bus σ) (h : Handle) (i : DeviceIdentity) : Prop where
  driven : b.HasOpen h.key → ∃ d, b.openedDevice h = some (h.key, d) ∧ d.identity = i ∧
    ∀ op, op.through? = some h → ¬ op.IsOversized →
      b.Drives host s h.key d (b.call host s op).2 ∨ b.TurnsAway host s op
  refused : ∀ op, op.through? = some h → ¬ op.IsOversized → (b.Refuses op ↔ ¬ b.HasOpen h.key)
  oversized : ∀ op, op.through? = some h → op.IsOversized →
    b.call host s op = (.dispatch (.error .invalidArgument), b, s)
  others : ∀ op, op.through? = some h → ∀ key, key ≠ h.key →
    (b.call host s op).2.1.roster.get? key = b.roster.get? key

theorem Settled.custody (hb : b.Settled places) (hnodup : places.Nodup)
    (hplace : places[h.key.index]? = some h.location) {i : DeviceIdentity}
    (hi : b.roster.Keeps h.key i) : b.Custody host s h i where
  driven hopen := by
    obtain ⟨d, hd, -⟩ := hb.openedDevice_of_hasOpen hplace hopen
    exact ⟨d, hd, hi.2 d (roster_of_openedDevice hd), fun op => drives_of_openedDevice host s hd⟩
  refused op hop hsize := by
    refine ⟨fun hrefuses hopen => ?_, fun hclosed => ?_⟩
    · obtain ⟨d, hd, hready⟩ := hb.openedDevice_of_hasOpen hplace hopen
      exact not_refuses_of_openedDevice hd hready hop hsize s hrefuses
    · exact refuses_of_openedDevice (hb.openedDevice_of_not_hasOpen hnodup hplace hclosed) hop hsize
  oversized _ _ hsize := call_of_isOversized host s hsize
  others op hop key hne := by
    by_cases hsize : op.IsOversized
    · rw [call_of_isOversized host s hsize]
    · by_cases hopen : b.HasOpen h.key
      · obtain ⟨d, hd, -⟩ := hb.openedDevice_of_hasOpen hplace hopen
        rcases drives_of_openedDevice host s hd hop hsize with hdrives | haway
        · exact hdrives.get?_of_ne host s (roster_of_openedDevice hd) hne
        · rw [haway.call]
      · have hnone := hb.openedDevice_of_not_hasOpen hnodup hplace hopen
        obtain ⟨a, hcall, -⟩ := refuses_of_openedDevice hnone hop hsize host s
        rw [hcall]

end Bus

/-! ## Runs -/

namespace Scene

variable {σ : Type} {host : Host σ} {allowed : Scene σ → Operation σ → Prop}

/-- **A handle drives the device that it was opened for, or none.** Whatever calls were made of a
new bus, a handle names the device that the call meant which handed it out. From then on, as long as
no two devices are attached for one place, every call through the handle deals with that device
alone while it is open, unless there is no slot for a transfer, and is refused up front while it is
not. It is not open just if some call has closed it and none has opened it since. -/
theorem custody_of_reached {n : Nat} {latency : UInt64} {memory : Memory} {world : σ}
    {c₁ c : Scene σ} {opening : Operation σ} {h : Handle}
    (h₁ : Reached host allowed ⟨Bus.empty n latency memory, world, []⟩ c₁)
    (hok : (c₁.bus.call host c₁.world opening).1 = .handle (.ok h))
    (hc : Reached host allowed (c₁.after host opening) c) (hnodup : c.past.places.Nodup) :
    ∃ d₁, c₁.bus.meant? host c₁.world opening = some h.attachment ∧
      c₁.bus.roster.get? h.key = some d₁ ∧ c.bus.Custody host c.world h d₁.identity ∧
      (¬ c.bus.HasOpen h.key ↔ ∃ c' op, Reached host allowed (c₁.after host opening) c' ∧
        allowed c' op ∧ c'.bus.Closes h op ∧
        Reached host (fun c op => allowed c op ∧ ¬ (c.bus.call host c.world op).1.Opens h.key)
          (c'.after host op) c) := by
  have hsettled₁ := h₁.settled (Bus.settled_empty n latency memory)
  have hfirst : (c₁.after host opening).bus.Settled (c₁.after host opening).past.places := by
    rw [show (c₁.after host opening).past.places = _ from Past.places_cons ..]
    exact Bus.settled_call host c₁.world hsettled₁ opening
  obtain ⟨hmeant, hsome⟩ := Bus.meant_of_handle host c₁.world hok
  obtain ⟨d₁, hd₁⟩ := Option.isSome_iff_exists.1 hsome
  -- the call notes the device as open
  have hmem : h.attachment ∈ (c₁.after host opening).bus.opened := by
    refine (Bus.mem_opened_call host c₁.world hsettled₁.lineup.toCoherent opening).2 (.inl ?_)
    rw [hok]
    rfl
  have hplace := hfirst.lineup.standing _ (hfirst.lineup.known _ hmem)
  obtain ⟨more, hmore⟩ := hc.places
  have hplace' : c.past.places[h.key.index]? = some h.location := by
    rw [← hmore]
    exact getElem?_append_of_some hplace more
  refine ⟨d₁, hmeant, hd₁, ?_, ?_⟩
  · refine (hc.settled hfirst).custody host c.world hnodup hplace' ?_
    have hopening : Reached host (fun _ _ => True) c₁ (c₁.after host opening) :=
      Reached.first.after opening trivial
    exact hc.keeps (hopening.keeps (Roster.keeps_of_get? hd₁))
  · exact hc.not_hasOpen_iff hfirst ⟨_, hmem, rfl⟩ hplace hnodup

/-! ### A device that was closed -/

/-- The bus with one device of the host, after the device was closed through its handle. -/
def closed : Scene Unit := plugged.after .obliging (.disconnect default false)

/-- A call through the handle is dealt with while the device is open, and refused once it is
closed. -/
theorem custody_of_closed : ¬ plugged.bus.Refuses (.getConfiguration default) ∧
    closed.bus.Refuses (.getConfiguration default) := by
  let c₁ := blank.after .obliging (.attach (.passthrough (.idle default)))
  have h₁ : Reached .obliging (fun c op => c.bus.AttachesClosed op) blank c₁ :=
    Reached.first.after _ rfl
  have hok : (c₁.bus.call .obliging () (.openRecord default)).1 = .handle (.ok default) := rfl
  have hc : Reached .obliging (fun c op => c.bus.AttachesClosed op) plugged closed :=
    Reached.first.after (.disconnect default false) trivial
  constructor
  · obtain ⟨d₁, -, -, hcustody, -⟩ := custody_of_reached h₁ hok .first (List.nodup_singleton _)
    intro hrefuses
    exact (hcustody.refused _ rfl (by decide)).1 hrefuses ⟨_, List.mem_singleton_self _, rfl⟩
  · obtain ⟨d₁, -, -, hcustody, -⟩ := custody_of_reached h₁ hok hc (List.nodup_singleton _)
    refine (hcustody.refused _ rfl (by decide)).2 ?_
    rintro ⟨a, ha, -⟩
    exact nomatch ha

end Scene

end VirtualUsb
