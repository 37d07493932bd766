import VirtualUsb.Controller
import VirtualUsb.Proofs.Transfer.Admission

/-!
# Runs of a controller

`Controller.Action` lists what can be done with a controller, and `Controller.Reaches` relates it to
what it is after some actions. All that an action does to the bus is a row of calls, at the end of
which a poll pumps the agenda at the time that it reads off the clock. So what the calls of a bus
keep is kept by runs of a controller, and only the pumps need a look.
-/

namespace VirtualUsb.Controller

variable {σ : Type}

/-- What is done with a controller. Whoever holds its bus may call that directly. -/
inductive Action (σ : Type) where
  | bus (operation : Operation σ)
  | submitControl (handle : Handle) (setup : SetupPacket) (buffer : GuestBuffer)
  | submitInterrupt (handle : Handle) (endpoint : UInt8) (buffer : GuestBuffer)
  | submitIsochronous (handle : Handle) (request : IsoRequest)
  | deliver (completion : Completion)
  | poll (timeout : Nat)
  | shutDown

/-- Carries out an action; the transfer that was accepted, if one was. -/
def act (c : Controller σ) (s : σ) : Action σ → Option TransferId × Controller σ × σ
  | .bus op =>
    let r := c.bus.call c.host s op
    ((Past.acceptedBy (op, r.1)).map (·.2.id), { c with bus := r.2.1 }, r.2.2)
  | .submitControl h setup buffer =>
    let r := c.submitControl h setup buffer s
    (r.1.toOption, r.2)
  | .submitInterrupt h endpoint buffer =>
    let r := c.submitInterrupt h endpoint buffer s
    (r.1.toOption, r.2)
  | .submitIsochronous h request =>
    let r := c.submitIsochronous h request s
    (r.1.toOption, r.2)
  | .deliver completion => (none, c.deliver completion s)
  | .poll timeout => (none, (c.poll timeout s).2)
  | .shutDown => (none, c.shutDown s)

/-- The call of the bus by which an action submits a transfer, if it submits one. -/
def request (c : Controller σ) (s : σ) : Action σ → Option (Operation σ)
  | .bus op => some op
  | .submitControl h setup buffer => some (.submitControl h setup buffer (c.clock s))
  | .submitInterrupt h endpoint buffer => some (.submitInterrupt h endpoint buffer (c.clock s))
  | .submitIsochronous h request => some (.submitIsochronous h request (c.clock s))
  | .deliver _ | .poll _ | .shutDown => none

/-- The time at which an action pumps the agenda, if it does. A poll reads it off the clock after
the host has reported. -/
def reading (c : Controller σ) (s : σ) : Action σ → Option UInt64
  | .bus (.pump now) => some now
  | .poll timeout =>
    let r := c.host.handleEvents timeout s
    let (c, s) := c.deliverAll r.1.1 r.2
    some (c.clock s)
  | _ => none

/-- What a controller and its world come to by actions, each of them allowed when it was taken. -/
inductive Reaches (allowed : Controller σ → σ → Action σ → Prop) (c : Controller σ) (s : σ) :
    Controller σ → σ → Prop
  | refl : Reaches allowed c s c s
  | act {c' : Controller σ} {s' : σ} (a : Action σ) (h : Reaches allowed c s c' s')
      (ha : allowed c' s' a) : Reaches allowed c s (c'.act s' a).2.1 (c'.act s' a).2.2

/-! ## Actions as rows of calls -/

/-- Whether all calls but pumps keep something of a bus, whatever the host does. -/
def KeptByCalls (P : Bus σ → Prop) : Prop :=
  ∀ (b : Bus σ) (host : Host σ) (s : σ) (op : Operation σ),
    (∀ now, op ≠ .pump now) → P b → P (b.call host s op).2.1

section

variable {P : Bus σ → Prop} (hP : KeptByCalls P)

include hP

theorem kept_handOver {c : Controller σ} (h : P c.bus) (d : Dispatch) (s : σ) :
    P (c.handOver d s).1.bus := by
  unfold handOver
  split
  · exact h
  · split
    · exact h
    · exact hP c.bus c.host s (.fail d.id _) (fun _ => nofun) h

theorem kept_followUp (c : Controller σ) {r : Except UsbError Dispatch × Bus σ × σ}
    (h : P r.2.1) : P (c.followUp r).2.1.bus := by
  obtain ⟨_ | d, b, s⟩ := r
  · exact h
  · exact kept_handOver hP (c := { c with bus := b }) h d s

theorem kept_deliver {c : Controller σ} (h : P c.bus) (completion : Completion) (s : σ) :
    P (c.deliver completion s).1.bus := by
  unfold deliver
  split
  · exact hP c.bus c.host s (.complete completion) (fun _ => nofun) h
  · exact h

theorem kept_deliverAll {c : Controller σ} (h : P c.bus) (completions : List Completion) (s : σ) :
    P (c.deliverAll completions s).1.bus := by
  unfold deliverAll
  induction completions generalizing c s with
  | nil => exact h
  | cons x rest ih => exact ih (kept_deliver hP h x s) (c.deliver x s).2

theorem kept_act {c : Controller σ} {s : σ} {a : Action σ} (h : P c.bus)
    (ha : c.reading s a = none) : P (c.act s a).2.1.bus := by
  cases a with
  | bus op =>
    refine hP c.bus c.host s op (fun now hop => ?_) h
    rw [hop] at ha
    exact nomatch ha
  | submitControl handle setup buffer =>
    exact kept_followUp hP c
      (hP c.bus c.host s (.submitControl handle setup buffer (c.clock s)) (fun _ => nofun) h)
  | submitInterrupt handle endpoint buffer =>
    exact kept_followUp hP c
      (hP c.bus c.host s (.submitInterrupt handle endpoint buffer (c.clock s)) (fun _ => nofun) h)
  | submitIsochronous handle request =>
    exact kept_followUp hP c
      (hP c.bus c.host s (.submitIsochronous handle request (c.clock s)) (fun _ => nofun) h)
  | deliver completion => exact kept_deliver hP h completion s
  | poll timeout => exact nomatch ha
  | shutDown => exact hP c.bus c.host s .clear (fun _ => nofun) h

theorem kept_until_pump {c : Controller σ} {s : σ} {a : Action σ} {now : UInt64} (h : P c.bus)
    (ha : c.reading s a = some now) : ∃ b, P b ∧ (c.act s a).2.1.bus = (b.pump now).2 := by
  cases a with
  | bus op =>
    cases op with
    | pump t =>
      obtain rfl := Option.some.inj ha
      exact ⟨c.bus, h, rfl⟩
    | _ => exact nomatch ha
  | poll timeout =>
    obtain rfl := Option.some.inj ha
    exact ⟨_, kept_deliverAll hP h _ _, rfl⟩
  | _ => exact nomatch ha

/-- What calls keep, and pumps at the times that are read, holds of the bus after a run. -/
theorem Reaches.kept {allowed : Controller σ → σ → Action σ → Prop} {c c' : Controller σ} {s s' : σ}
    (h : Reaches allowed c s c' s') (h0 : P c.bus)
    (hpump : ∀ c s a now, allowed c s a → c.reading s a = some now →
      ∀ b : Bus σ, P b → P (b.pump now).2) : P c'.bus := by
  induction h with
  | refl => exact h0
  | @act c s a _ ha ih =>
    cases hr : c.reading s a with
    | none => exact kept_act hP ih hr
    | some now =>
      obtain ⟨b, hb, e⟩ := kept_until_pump hP ih hr
      rw [e]
      exact hpump c s a now ha hr b hb

end

/-! ## Starting -/

/-- What every call keeps holds of the bus of a controller that has just started. -/
theorem kept_start {P : Bus σ → Prop} (hP : ∀ b host s op, P b → P (Bus.call host b s op).2.1)
    {host : Host σ} {clock : σ → UInt64} {settings : Settings} {memory : Memory} {s s' : σ}
    {c : Controller σ} (h : start host clock settings memory s = (.ok c, s'))
    (h0 : P (Bus.empty settings.poolSize settings.latency memory)) : P c.bus := by
  have hfold {α : Type} (f : Bus σ × σ → α → Bus σ × σ) (hf : ∀ p x, P p.1 → P (f p x).1)
      (l : List α) (p : Bus σ × σ) (hp : P p.1) : P (l.foldl f p).1 := by
    induction l generalizing p with
    | nil => exact hp
    | cons x l ih => exact ih (f p x) (hf p x hp)
  have hattach (b : Bus σ) (d : Device σ) (s : σ) (hb : P b) :
      P (b.newLocation.2.attach host d s).2.1 :=
    hP _ host s (.attach d) (hP b host s .newLocation hb)
  unfold start at h
  split at h
  · exact nomatch h
  · obtain rfl := Except.ok.inj (Prod.mk.inj h).1
    refine hfold _ (fun p e hp => hattach p.1 _ p.2 hp) _ _ ?_
    exact hfold _ (fun p d hp => hattach p.1 _ _ hp) _ _ h0

/-- A controller does not start with more slots than there are names for. -/
theorem poolSize_le_of_start {host : Host σ} {clock : σ → UInt64} {settings : Settings}
    {memory : Memory} {s s' : σ} {c : Controller σ}
    (h : start host clock settings memory s = (.ok c, s')) :
    settings.poolSize ≤ Settings.maxPoolSize := by
  unfold start at h
  split at h
  · exact nomatch h
  · rename_i hfault
    unfold Settings.fault at hfault
    split at hfault
    · exact nomatch hfault
    · rename_i hsize
      exact Nat.not_lt.1 fun hlt => hsize (.inr hlt)

end VirtualUsb.Controller
