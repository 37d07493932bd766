import VirtualUsb.Proofs.Bus.History
import VirtualUsb.Proofs.Bus.Selection

/-!
# Which interfaces are claimed

The host is asked to claim an interface of a device when the device is opened, and then for the
default interface, or when a guest asks for an interface that the active configuration has
(`HostTurn.ClaimsValid`). What a device remembers as claimed is what its own calls of the host have
left claimed on the handle that it has open (`Passthrough.Remembers`). Both hold throughout every
run, and a guest is refused what the configuration does not have without a call of the host
(`Scene.claims_of_reached`).
-/

namespace VirtualUsb

/-! ## Claims in a log -/

namespace HostCall

/-- Whether a call settles whether an interface is claimed on a handle: the handle was opened or
closed, or the interface was claimed, with whatever answer, or released. -/
inductive Settles (h : HostHandle) (i : UInt8) : HostCall → Prop
  | opened {device : HostDeviceId} : Settles h i (.openDevice device (.ok h))
  | closed : Settles h i (.closeHandle h)
  | claimed {answer : Except HostError Unit} : Settles h i (.claim h i answer)
  | released : Settles h i (.release h i (.ok ()))

def isClaim : HostCall → Bool
  | claim .. => true
  | _ => false

theorem not_settles_of_isAside {x : HostCall} (hx : x.isAside = true) (h : HostHandle)
    (i : UInt8) : ¬ x.Settles h i := by
  rintro (_ | _ | _ | _) <;> exact nomatch hx

end HostCall

namespace HostLog

variable {log row : HostLog} {x : HostCall} {h : HostHandle} {i : UInt8}

/-- The calls to claim an interface, with their answers. -/
def claims (log : HostLog) : HostLog := log.filter (·.isClaim)

/-- Whether the last call to claim an interface on a handle, since that was opened, succeeded, and
the interface was not released since. -/
def Claimed (h : HostHandle) (i : UInt8) (log : HostLog) : Prop :=
  ∃ later earlier, log = later ++ .claim h i (.ok ()) :: earlier ∧ ∀ x ∈ later, ¬ x.Settles h i

theorem claimed_cons_of_settles (hx : x.Settles h i) :
    Claimed h i (x :: log) ↔ x = .claim h i (.ok ()) := by
  constructor
  · rintro ⟨_ | ⟨y, later⟩, earlier, e, hlater⟩
    · exact (List.cons.inj e).1
    · rw [(List.cons.inj e).1] at hx
      exact absurd hx (hlater y List.mem_cons_self)
  · rintro rfl
    exact ⟨[], log, rfl, nofun⟩

theorem claimed_cons_of_not_settles (hx : ¬ x.Settles h i) :
    Claimed h i (x :: log) ↔ Claimed h i log := by
  constructor
  · rintro ⟨_ | ⟨y, later⟩, earlier, e, hlater⟩
    · obtain ⟨rfl, -⟩ := List.cons.inj e
      exact absurd .claimed hx
    · exact ⟨later, earlier, (List.cons.inj e).2, fun z hz => hlater z (List.mem_cons_of_mem y hz)⟩
  · rintro ⟨later, earlier, rfl, hlater⟩
    exact ⟨x :: later, earlier, rfl, List.forall_mem_cons.2 ⟨hx, hlater⟩⟩

theorem claimed_append (hrow : ∀ x ∈ row, ¬ x.Settles h i) :
    Claimed h i (row ++ log) ↔ Claimed h i log := by
  induction row with
  | nil => rfl
  | cons x row ih =>
    obtain ⟨hx, hrest⟩ := List.forall_mem_cons.1 hrow
    exact (claimed_cons_of_not_settles hx).trans (ih hrest)

theorem claims_append_of_none (hrow : ∀ x ∈ row, x.isClaim = false) :
    claims (row ++ log) = claims log := by
  unfold claims
  rw [List.filter_append, List.filter_eq_nil_iff.2 fun x hx => Bool.eq_false_iff.1 (hrow x hx)]
  rfl

end HostLog

/-! ## Methods -/

namespace Passthrough

open Host (log_noting)
open HostLog (Claimed claims claimed_append claimed_cons_of_settles claimed_cons_of_not_settles)

/-- Whether a device remembers as claimed just what its calls of the host have left claimed on the
handle that it has open; if it has none open, it remembers nothing. -/
def Remembers (p : Passthrough) (log : HostLog) : Prop :=
  ∀ i, i ∈ p.claimed ↔ ∃ h, p.handle = some h ∧ Claimed h i log

variable {p q : Passthrough} {log made : HostLog} {call : DeviceCall} {h : HostHandle} {i : UInt8}

theorem remembers_of_handle (hp : p.handle = some h) :
    p.Remembers log ↔ ∀ i, i ∈ p.claimed ↔ Claimed h i log := by
  refine forall_congr' fun i => ?_
  rw [hp]
  constructor
  · intro hi
    rw [hi]
    exact ⟨fun ⟨_, e, hc⟩ => Option.some.inj e ▸ hc, fun hc => ⟨h, rfl, hc⟩⟩
  · intro hi
    rw [hi]
    exact ⟨fun hc => ⟨h, rfl, hc⟩, fun ⟨_, e, hc⟩ => Option.some.inj e ▸ hc⟩

theorem remembers_of_closed (hp : p.handle = none) :
    p.Remembers log ↔ ∀ i, i ∉ p.claimed := by
  refine forall_congr' fun i => iff_false_right ?_
  rintro ⟨h, e, -⟩
  exact nomatch hp.symm.trans e

/-- Calls that settle nothing on the handle that a device has open change nothing of what it is to
remember. -/
theorem Remembers.append (hp : p.Remembers log) (hhandle : q.handle = p.handle)
    (hclaimed : q.claimed = p.claimed)
    (hrow : ∀ h i, p.handle = some h → ∀ x ∈ made, ¬ x.Settles h i) :
    q.Remembers (made ++ log) := by
  intro i
  rw [hclaimed, hp i, hhandle]
  constructor
  · rintro ⟨h, hp, hc⟩
    exact ⟨h, hp, (claimed_append (hrow h i hp)).2 hc⟩
  · rintro ⟨h, hp, hc⟩
    exact ⟨h, hp, (claimed_append (hrow h i hp)).1 hc⟩

theorem Remembers.deals (hp : p.Remembers log) (hd : p.Deals call made q) :
    q.Remembers (made ++ log) := by
  have closed (hnone : p.handle = none) (made : HostLog) : p.Remembers (made ++ log) :=
    hp.append rfl rfl fun h _ e => nomatch hnone.symm.trans e
  cases hd with
  | aside hmade | selected hmade =>
    exact hp.append rfl rfl fun h i _ x hx => HostCall.not_settles_of_isAside (hmade x hx) h i
  | unopened hnone | unclaimed hnone | unread hnone | peeked hnone => exact closed hnone _
  | opened hnone =>
    refine (remembers_of_handle rfl).2 fun i => ?_
    rw [InterfaceSet.mem_insert]
    by_cases hi : i = defaultInterface
    · subst hi
      rw [List.cons_append, claimed_cons_of_settles .claimed]
      exact iff_of_true (.inl rfl) rfl
    · -- the handle was opened just now, and only the default interface was claimed since
      rw [List.cons_append, claimed_cons_of_not_settles, List.cons_append,
        claimed_cons_of_not_settles, List.cons_append, claimed_cons_of_settles .opened]
      · exact iff_of_false (not_or.2 ⟨hi, (remembers_of_closed hnone).1 hp i⟩) nofun
      · rintro (_ | _)
      · rintro (_ | _)
        exact hi rfl
  | closed => exact (remembers_of_closed rfl).2 fun i => nofun
  | read _ _ hrow =>
    refine hp.append rfl rfl fun h i _ x hx => ?_
    rw [hrow x hx]
    rintro (_ | _)
  | @claimed h i hhandle =>
    refine (remembers_of_handle (by exact hhandle)).2 fun j => ?_
    rw [InterfaceSet.mem_insert, (remembers_of_handle hhandle).1 hp j]
    by_cases hj : j = i
    · subst hj
      rw [List.singleton_append, claimed_cons_of_settles .claimed]
      exact iff_of_true (.inl rfl) rfl
    · rw [List.singleton_append, claimed_cons_of_not_settles]
      · exact or_iff_right hj
      · rintro (_ | _)
        exact hj rfl
  | @refused h i e hhandle _ hnew =>
    refine (remembers_of_handle hhandle).2 fun j => ?_
    by_cases hj : j = i
    · subst hj
      rw [List.singleton_append, claimed_cons_of_settles .claimed]
      exact iff_of_false hnew nofun
    · rw [(remembers_of_handle hhandle).1 hp j, List.singleton_append, claimed_cons_of_not_settles]
      rintro (_ | _)
      exact hj rfl
  | @released h i hhandle =>
    refine (remembers_of_handle (by exact hhandle)).2 fun j => ?_
    rw [InterfaceSet.mem_erase, (remembers_of_handle hhandle).1 hp j]
    by_cases hj : j = i
    · subst hj
      rw [List.singleton_append, claimed_cons_of_settles .released]
      exact iff_of_false (fun hmem => hmem.2 rfl) nofun
    · rw [List.singleton_append, claimed_cons_of_not_settles]
      · exact and_iff_left hj
      · rintro (_ | _)
        exact hj rfl

/-- The host is asked to claim an interface in the course of opening, and then it is the default
interface, or for a claim of an interface that the active configuration has. -/
theorem Deals.of_claim_mem (hd : p.Deals call made q) {answer : Except HostError Unit}
    (hmem : .claim h i answer ∈ made) :
    call = .openForUse ∧ i = defaultInterface ∨
      call = .claim i ∧ p.handle = some h ∧ i < p.state.interfaceCount := by
  cases hd with
  | aside hmade | selected hmade => exact nomatch hmade _ hmem
  | unopened | unread => simp at hmem
  | unclaimed | opened =>
    simp only [List.mem_cons, HostCall.claim.injEq, reduceCtorEq, false_or, or_false,
      List.not_mem_nil] at hmem
    exact .inl ⟨rfl, hmem.2.1⟩
  | closed _ hrow =>
    rcases List.mem_cons.1 hmem with e | hmem
    · exact nomatch e
    · obtain ⟨j, a, e⟩ := hrow _ hmem
      exact nomatch e
  | peeked _ _ hrow =>
    rcases List.mem_cons.1 hmem with e | hmem
    · exact nomatch e
    · rcases List.mem_append.1 hmem with hmem | hmem
      · exact nomatch hrow _ hmem
      · exact nomatch List.mem_singleton.1 hmem
  | read _ _ hrow => exact nomatch hrow _ hmem
  | claimed hhandle hi | refused hhandle hi =>
    obtain ⟨rfl, rfl, -⟩ := HostCall.claim.inj (List.mem_singleton.1 hmem)
    exact .inr ⟨rfl, hhandle, hi⟩
  | released => exact nomatch List.mem_singleton.1 hmem

/-! ### Requests to claim an interface -/

/-- How a request to claim an interface is answered, with the state of a device whose descriptors
were read and the interfaces that it has claimed on a handle, and which claims the host was asked
for meanwhile. -/
structure ClaimAnswered (d : DeviceState) (claimed : InterfaceSet) (h : HostHandle) (i : UInt8)
    (answer : Except UsbError Unit) (before after : HostLog) : Prop where
  /-- Just what the active configuration does not have is refused without asking the host. -/
  refused : answer = .error .invalidArgument ∧ claims after = claims before ↔ d.interfaceCount ≤ i
  /-- Nothing can be claimed as long as no configuration could be read. -/
  unread : d.descriptors.children = [] → d.interfaceCount ≤ i
  /-- The host is not asked for what is claimed already. -/
  held : i < d.interfaceCount → i ∈ claimed → answer = .ok () ∧ claims after = claims before
  /-- Else it is asked once, and has the word. -/
  asked : i < d.interfaceCount → i ∉ claimed → ∃ word, answer = word.mapError .ofHost ∧
    claims after = .claim h i word :: claims before

variable {σ : Type} (host : Host σ) (s : σ × HostLog)

theorem interfaceCount_of_no_children {d : DeviceState} (h : d.descriptors.children = []) :
    d.interfaceCount = 0 := by
  unfold DeviceState.interfaceCount DeviceState.activeConfiguration
  rw [h]
  rfl

theorem claim_of_le (hi : p.state.interfaceCount ≤ i) :
    p.claim host.logged i s = (.error .invalidArgument, p, s) := by
  unfold claim
  rw [if_pos hi]

theorem claim_of_mem (hp : p.handle = some h) (hi : i < p.state.interfaceCount)
    (hmem : i ∈ p.claimed) : p.claim host.logged i s = (.ok (), p, s) := by
  unfold claim
  rw [if_neg (UInt8.not_le.2 hi), hp]
  exact if_pos hmem

theorem claim_of_not_mem (hp : p.handle = some h) (hi : i < p.state.interfaceCount)
    (hnew : i ∉ p.claimed) : ∃ word, (p.claim host.logged i s).1 = word.mapError .ofHost ∧
      (p.claim host.logged i s).2.2.2 = .claim h i word :: s.2 := by
  unfold claim
  rw [if_neg (UInt8.not_le.2 hi), hp]
  dsimp only
  rw [if_neg hnew]
  split
  all_goals
    rename_i he
    exact ⟨_, rfl, log_noting he⟩

theorem claimAnswered_claim (hp : p.handle = some h) (i : UInt8) :
    ClaimAnswered p.state p.claimed h i (p.claim host.logged i s).1 s.2
      (p.claim host.logged i s).2.2.2 := by
  have hheld (hi : i < p.state.interfaceCount) (hmem : i ∈ p.claimed) :
      (p.claim host.logged i s).1 = .ok () ∧
        claims (p.claim host.logged i s).2.2.2 = claims s.2 := by
    rw [claim_of_mem host s hp hi hmem]
    exact ⟨rfl, rfl⟩
  have hasked (hi : i < p.state.interfaceCount) (hnew : i ∉ p.claimed) :
      ∃ word, (p.claim host.logged i s).1 = word.mapError .ofHost ∧
        claims (p.claim host.logged i s).2.2.2 = .claim h i word :: claims s.2 := by
    obtain ⟨word, hword, hlog⟩ := claim_of_not_mem host s hp hi hnew
    rw [hlog]
    exact ⟨word, hword, List.filter_cons_of_pos rfl⟩
  refine ⟨⟨fun ⟨hanswer, hclaims⟩ => ?_, fun hi => ?_⟩, fun hnone => ?_, hheld, hasked⟩
  · -- what the configuration has is either held, and granted, or the host is asked for it
    by_contra hlt
    have hi := UInt8.not_le.1 hlt
    by_cases hmem : i ∈ p.claimed
    · exact nomatch hanswer.symm.trans (hheld hi hmem).1
    · obtain ⟨word, -, hone⟩ := hasked hi hmem
      exact List.cons_ne_self _ _ (hone.symm.trans hclaims)
  · rw [claim_of_le host s hi]
    exact ⟨rfl, rfl⟩
  · rw [interfaceCount_of_no_children hnone]
    exact UInt8.zero_le

theorem claims_readDescriptors (p : Passthrough) :
    claims (p.readDescriptors host.logged s).2.2 = claims s.2 := by
  obtain ⟨made, hs, hdeals⟩ := p.dealt_readDescriptors host s
  rw [hs]
  refine HostLog.claims_append_of_none fun x hx => ?_
  cases x with
  | claim =>
    rcases hdeals.of_claim_mem hx with ⟨e, -⟩ | ⟨e, -⟩
    · exact nomatch e
    · exact nomatch e
  | _ => rfl

theorem claimed_readDescriptors (p : Passthrough) :
    (p.readDescriptors host.logged s).1.claimed = p.claimed := by
  unfold readDescriptors
  repeat' split
  all_goals rfl

end Passthrough

/-- A request to claim an interface of an open device is answered by the device, once its
descriptors are read. -/
theorem Bus.claimAnswered {σ : Type} (host : Host σ) {b : Bus (σ × HostLog)} (s : σ × HostLog)
    {handle : Handle} {key : DeviceKey} {p : Passthrough} {h : HostHandle}
    (hd : b.openedDevice handle = some (key, .passthrough p)) (hp : p.handle = some h)
    (i : UInt8) :
    Passthrough.ClaimAnswered (p.readDescriptors host.logged s).1.state p.claimed h i
      (b.claim host.logged handle i s).1 s.2 (b.claim host.logged handle i s).2.2.2 := by
  have hhandle : (p.readDescriptors host.logged s).1.handle = some h :=
    (congrArg Prod.snd (p.stance_readDescriptors host.logged s)).trans hp
  have hanswered :=
    Passthrough.claimAnswered_claim host (p.readDescriptors host.logged s).2 hhandle i
  rw [p.claimed_readDescriptors host s] at hanswered
  have hclaims := p.claims_readDescriptors host s
  rw [claim_of_openedDevice host.logged s hd i]
  exact ⟨hclaims ▸ hanswered.refused, hanswered.unread, hclaims ▸ hanswered.held,
    hclaims ▸ hanswered.asked⟩

/-! ## Runs -/

/-- Whether the claims that the host was asked for in a turn are valid: one in the course of opening
is for the default interface, any other for an interface that the active configuration of the device
had then. -/
def HostTurn.ClaimsValid {σ : Type} (t : HostTurn σ) : Prop :=
  ∀ h i answer, .claim h i answer ∈ t.made →
    t.call = some .openForUse ∧ i = Passthrough.defaultInterface ∨
      t.call = some (.claim i) ∧ t.device.handle = some h ∧ i < t.device.state.interfaceCount

theorem HostTurn.Leaves.claimsValid {σ : Type} {host : Host σ} {t : HostTurn σ} {q : Passthrough}
    (h : t.Leaves host q) : t.ClaimsValid := by
  intro handle i answer hmem
  unfold Leaves at h
  split at h
  · rename_i call hcall
    rcases h.2.of_claim_mem hmem with ⟨rfl, hi⟩ | ⟨rfl, hh, hi⟩
    · exact .inl ⟨hcall, hi⟩
    · exact .inr ⟨hcall, hh, hi⟩
  · obtain ⟨made, e, hdeals⟩ := h
    rw [e] at hmem
    rcases List.mem_cons.1 hmem with e | hmem
    · exact nomatch e
    · rcases hdeals.of_claim_mem hmem with ⟨e, -⟩ | ⟨e, -⟩
      · exact nomatch e
      · exact nomatch e

theorem HostTurn.Leaves.remembers {σ : Type} {host : Host σ} {t : HostTurn σ} {q : Passthrough}
    (h : t.Leaves host q) {log : HostLog} (hp : t.device.Remembers log) :
    q.Remembers (t.made ++ log) := by
  unfold Leaves at h
  split at h
  · exact hp.deals h.2
  · obtain ⟨made, e, hdeals⟩ := h
    have hdone : q.Remembers ([.unreference t.device.device.id] ++ (made ++ log)) := by
      refine (hp.deals hdeals).append rfl rfl fun h i _ x hx => ?_
      rw [List.mem_singleton.1 hx]
      rintro (_ | _)
    rw [e]
    exact hdone

namespace Scene

open Passthrough (ClaimAnswered)

variable {σ : Type} {host : Host σ} {first c : Scene (σ × HostLog)} {turns : List (HostTurn σ)}

/-- A device of the host that is new to the bus remembers throughout a history just what its turns
have left claimed. -/
theorem History.remembers (h : History host first c turns) {key : DeviceKey}
    (h0 : first.bus.roster.get? key = none) {p : Passthrough}
    (hp : c.bus.roster.get? key = some (.passthrough p)) :
    p.Remembers (HostTurn.callsOf key turns) := by
  refine (h.device (P := fun p turns => p.Remembers (HostTurn.callsOf key turns))
    ?_ ?_ ?_ ?_).1 p hp
  · exact fun p hp => nomatch h0.symm.trans hp
  · rintro - c p turns ⟨hclosed, hclaimed⟩
    rw [Passthrough.remembers_of_closed hclosed, hclaimed]
    exact fun i => nofun
  · rintro t q turns rfl hq hx
    rw [HostTurn.callsOf_cons_self]
    exact hq.remembers hx
  · intro t p turns hne hx
    rw [HostTurn.callsOf_cons_of_ne hne.symm]
    exact hx

/-- **Interfaces are checked before they are claimed.** Take any calls of a new bus and whatever the
host answered them. The run has a history, and each of its histories tells of all calls of the host.
In it the host is asked to claim the default interface of a device that is being opened, or an
interface that the active configuration of the device had then, and nothing else. What a device
remembers as claimed is just what its own calls have left claimed on the handle that it has open,
and nothing if it has none. A guest that wants an interface of an open device is refused without a
call of the host just if the active configuration does not have it, so it is if no configuration
could be read. It is told that all is well without a call if the interface is claimed already, and
else it gets the word of the host, which is asked once. -/
theorem claims_of_reached {n : Nat} {latency : UInt64} {memory : Memory} {world : σ}
    (hc : Reached host.logged (fun c op => c.KeepsHistory op)
      ⟨Bus.empty n latency memory, (world, []), []⟩ c) :
    (∃ turns, History host ⟨Bus.empty n latency memory, (world, []), []⟩ c turns) ∧
      (∀ turns, History host ⟨Bus.empty n latency memory, (world, []), []⟩ c turns →
        c.world.2 = HostTurn.calls turns ∧ (∀ t ∈ turns, t.ClaimsValid) ∧
          ∀ key p, c.bus.roster.get? key = some (.passthrough p) →
            p.Remembers (HostTurn.callsOf key turns)) ∧
      ∀ handle key p i, c.bus.openedDevice handle = some (key, .passthrough p) →
        ∃ h, p.handle = some h ∧
          ClaimAnswered (p.readDescriptors host.logged c.world).1.state p.claimed h i
            (c.bus.claim host.logged handle i c.world).1 c.world.2
            (c.bus.claim host.logged handle i c.world).2.2.2 := by
  have hapart : (Bus.empty n latency memory : Bus (σ × HostLog)).roster.IsApart :=
    fun _ _ hd => nomatch hd
  refine ⟨(hc.exists_history hapart).2, fun turns hturns => ?_, fun handle key p i hd => ?_⟩
  · refine ⟨hturns.log.trans (List.append_nil _), fun t ht => ?_, fun key p hp => ?_⟩
    · obtain ⟨q, hq⟩ := hturns.exists_leaves t ht
      exact hq.claimsValid
    · exact hturns.remembers rfl hp
  · have hsound := hc.sound (Bus.lineup_empty n latency memory) fun _ _ hop => hop.attachesClosed
    obtain ⟨h, hp⟩ := (Bus.lists_of_sound hsound).handle_of_openedDevice hd
    exact ⟨h, hp, Bus.claimAnswered host c.world hd hp i⟩

/-! ### A device with two interfaces -/

/-- A bus with an open device whose second configuration has two interfaces. A guest has asked for
the second of them in vain while the first configuration was selected, then it selected the other
one, and has claimed it. -/
def claiming : Scene (Unit × HostLog) :=
  ((((Scene.after Host.stubborn.logged ⟨Bus.empty 2 0 (.blank 16), ((), []), []⟩
    (.attach (.passthrough (.idle { id := 20, descriptor := { numConfigurations := 2 } })))).after
      Host.stubborn.logged (.openRecord default)).after
      Host.stubborn.logged (.claim default 1)).after
      Host.stubborn.logged (.setConfiguration default 2)).after
      Host.stubborn.logged (.claim default 1)

/-- The open device has two interfaces, both of which it holds. -/
theorem device_claiming : ∃ p, claiming.bus.openedDevice default = some (⟨0⟩, .passthrough p) ∧
    p.handle = some 1 ∧ p.claimed.toList = [0, 1] ∧
      (p.readDescriptors Host.stubborn.logged claiming.world).1.state.interfaceCount = 2 := by
  have h : (claiming.bus.openedDevice default).bind (fun x => x.2.ofHost?.map fun p =>
      (x.1, p.handle, p.claimed.toList,
        (p.readDescriptors Host.stubborn.logged claiming.world).1.state.interfaceCount)) =
      some (⟨0⟩, some 1, [0, 1], 2) := by
    decide +kernel
  obtain ⟨⟨key, d⟩, hopened, hfound⟩ := Option.bind_eq_some_iff.1 h
  obtain ⟨p, hp, e⟩ := Option.map_eq_some_iff.1 hfound
  obtain rfl := Device.eq_passthrough_of_ofHost? hp
  simp only [Prod.mk.injEq] at e
  obtain ⟨rfl, hheld⟩ := e
  exact ⟨p, hopened, hheld⟩

/-- The second interface is left claimed, so the host is not asked for it again, and not for a third
one. -/
theorem claims_of_claiming :
    (∃ turns, History .stubborn ⟨Bus.empty 2 0 (.blank 16), ((), []), []⟩ claiming turns ∧
        HostLog.Claimed 1 1 (HostTurn.callsOf ⟨0⟩ turns)) ∧
      (claiming.bus.claim Host.stubborn.logged default 1 claiming.world).1 = .ok () ∧
      (claiming.bus.claim Host.stubborn.logged default 2 claiming.world).1 =
        .error .invalidArgument := by
  have hrun : Reached Host.stubborn.logged (fun c op => c.KeepsHistory op)
      ⟨Bus.empty 2 0 (.blank 16), ((), []), []⟩ claiming :=
    ((((Reached.first.after _ ⟨rfl, rfl⟩).after _ trivial).after _ trivial).after _ trivial).after _
      trivial
  obtain ⟨⟨turns, hturns⟩, hall, hanswers⟩ := claims_of_reached hrun
  obtain ⟨p, hp, hhandle, hclaimed, hcount⟩ := device_claiming
  have hmem : (1 : UInt8) ∈ p.claimed := by
    show (1 : UInt8) ∈ p.claimed.toList
    rw [hclaimed]
    decide
  have hremembers := (hall turns hturns).2.2 _ p (Bus.roster_of_openedDevice hp)
  obtain ⟨h, hh, hleft⟩ := (hremembers 1).1 hmem
  obtain rfl : 1 = h := Option.some.inj (hhandle.symm.trans hh)
  obtain ⟨_, -, hsecond⟩ := hanswers _ _ p 1 hp
  obtain ⟨_, -, hthird⟩ := hanswers _ _ p 2 hp
  refine ⟨⟨turns, hturns, hleft⟩, (hsecond.held ?_ hmem).1, (hthird.refused.2 ?_).1⟩
  · rw [hcount]
    decide
  · rw [hcount]
    decide

end Scene

end VirtualUsb
