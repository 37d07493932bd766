import VirtualUsb.Host.Transport

/-!
# Logs of the host's calls

`Host.logged` is a host that keeps a log of the calls made to it, each with its answer and the
latest first. `HostLog.Lawful` says call by call how one device is to deal with its host: it opens
one handle at a time, names no handle but that, and releases what it has claimed before it closes
it. `HostLog.Bracketed` is what that comes to for a log as a whole (`HostLog.Lawful.bracketed`).
-/

namespace VirtualUsb

/-- A call made to a host, with the part of its answer that handles and interfaces depend on. -/
inductive HostCall
  | deviceList
  | reference (device : HostDeviceId)
  | unreference (device : HostDeviceId)
  | openDevice (device : HostDeviceId) (answer : Except HostError HostHandle)
  | closeHandle (handle : HostHandle)
  | autoDetach (handle : HostHandle)
  | claim (handle : HostHandle) (interface : UInt8) (answer : Except HostError Unit)
  | release (handle : HostHandle) (interface : UInt8) (answer : Except HostError Unit)
  | configuration (handle : HostHandle)
  | setConfiguration (handle : HostHandle)
  | setAlternate (handle : HostHandle)
  | controlSync (handle : HostHandle)
  | submit (transfer : HostTransfer)
  | handleEvents

/-- Calls of a host, the latest first. -/
abbrev HostLog := List HostCall

/-! ## Hosts with a log -/

namespace Host

variable {σ α : Type}

/-- A call that is noted, with its answer. -/
def noting (f : σ → α × σ) (g : α → HostCall) (s : σ × HostLog) : α × σ × HostLog :=
  let r := f s.1
  (r.1, r.2, g r.1 :: s.2)

/-- A host that notes the calls made to it. -/
def logged (host : Host σ) : Host (σ × HostLog) where
  deviceList := noting host.deviceList fun _ => .deviceList
  reference id s := (host.reference id s.1, .reference id :: s.2)
  unreference id s := (host.unreference id s.1, .unreference id :: s.2)
  openDevice id := noting (host.openDevice id) (.openDevice id)
  closeHandle h s := (host.closeHandle h s.1, .closeHandle h :: s.2)
  autoDetach h enable := noting (host.autoDetach h enable) fun _ => .autoDetach h
  claim h i := noting (host.claim h i) (.claim h i)
  release h i := noting (host.release h i) (.release h i)
  configuration h := noting (host.configuration h) fun _ => .configuration h
  setConfiguration h value := noting (host.setConfiguration h value) fun _ => .setConfiguration h
  setAlternate h i setting := noting (host.setAlternate h i setting) fun _ => .setAlternate h
  controlSync h setup buffer timeout :=
    noting (host.controlSync h setup buffer timeout) fun _ => .controlSync h
  submit t := noting (host.submit t) fun _ => .submit t
  handleEvents timeout := noting (host.handleEvents timeout) fun _ => .handleEvents
  patience s := host.patience s.1
  patience_lt t s := host.patience_lt t s.1

theorem log_noting {f : σ → α × σ} {g : α → HostCall} {s s' : σ × HostLog} {a : α}
    (h : noting f g s = (a, s')) : s'.2 = g a :: s.2 := by
  cases h
  rfl

end Host

/-! ## What a call does -/

namespace HostCall

def handle? : HostCall → Option HostHandle
  | closeHandle h | autoDetach h | claim h _ _ | release h _ _ => some h
  | configuration h | setConfiguration h | setAlternate h | controlSync h => some h
  | submit t => some t.handle
  | deviceList | reference _ | unreference _ | openDevice _ _ | handleEvents => none

def opened? : HostCall → Option HostHandle
  | openDevice _ (.ok h) => some h
  | _ => none

def closed? : HostCall → Option HostHandle
  | closeHandle h => some h
  | _ => none

/-- Whether a call opens and closes no handle. -/
def IsSteady (x : HostCall) : Prop := x.opened? = none ∧ x.closed? = none

/-- Whether a call takes or gives back a reference to a device. -/
def counts : HostCall → Bool
  | reference _ | unreference _ => true
  | _ => false

theorem eq_closeHandle {x : HostCall} {h : HostHandle} (hx : x.closed? = some h) :
    x = .closeHandle h := by
  cases x with
  | closeHandle h' => exact congrArg closeHandle (Option.some.inj hx)
  | _ => exact nomatch hx

theorem opened?_of_closed? {x : HostCall} {h : HostHandle} (hx : x.closed? = some h) :
    x.opened? = none := by
  rw [eq_closeHandle hx]
  rfl

end HostCall

namespace HostLog

/-- The handles that are open after some calls, one entry for each time one was opened. -/
def openHandles : HostLog → List HostHandle
  | [] => []
  | x :: past =>
    x.opened?.toList ++ match x.closed? with
      | some h => (openHandles past).erase h
      | none => openHandles past

/-- The interfaces claimed on a handle since it was opened, and not released since. -/
def held (h : HostHandle) : HostLog → List UInt8
  | [] => []
  | x :: past =>
    if x.opened? = some h ∨ x.closed? = some h then []
    else
      match x with
      | .claim h' i (.ok ()) => if h' = h then i :: held h past else held h past
      | .release h' i (.ok ()) => if h' = h then (held h past).filter (· ≠ i) else held h past
      | _ => held h past

/-- Whether the last calls, one after another, tried to release every interface that was held on a
handle before. -/
def Released (h : HostHandle) (past : HostLog) : Prop :=
  ∃ row earlier, past = row ++ earlier ∧ (∀ x ∈ row, ∃ i a, x = .release h i a) ∧
    ∀ i ∈ held h earlier, ∃ a, .release h i a ∈ row

variable {past log : HostLog} {x : HostCall} {h : HostHandle} {id : HostDeviceId}

theorem openHandles_of_steady (hx : x.IsSteady) : openHandles (x :: past) = openHandles past := by
  rw [openHandles, hx.1, hx.2]
  rfl

theorem openHandles_of_opened (hx : x.opened? = some h) :
    openHandles (x :: past) = h :: openHandles past := by
  have hc : x.closed? = none := by
    cases hc : x.closed? with
    | none => rfl
    | some h' => exact nomatch (HostCall.opened?_of_closed? hc).symm.trans hx
  rw [openHandles, hx, hc]
  rfl

theorem openHandles_closeHandle :
    openHandles (.closeHandle h :: past) = (openHandles past).erase h := rfl

/-! ## Lawful logs -/

/-- Whether a device may make a call after some others. -/
structure Proper (x : HostCall) (past : HostLog) : Prop where
  named : ∀ h, x.handle? = some h → h ∈ openHandles past
  alone : ∀ h, x.opened? = some h → openHandles past = []
  released : ∀ h, x.closed? = some h → Released h past
  uncounted : x.counts = false

/-- Whether a device took a reference first and made proper calls since. -/
inductive Lawful (id : HostDeviceId) : HostLog → Prop
  | attached : Lawful id [.reference id]
  | call {past : HostLog} {x : HostCall} (h : Lawful id past) (hx : Proper x past) :
      Lawful id (x :: past)

namespace Lawful

theorem length_openHandles_le (hl : Lawful id log) : (openHandles log).length ≤ 1 := by
  induction hl with
  | attached => exact Nat.zero_le 1
  | @call past x _ hx ih =>
    cases ho : x.opened? with
    | some h =>
      rw [openHandles_of_opened ho, hx.alone h ho]
      exact Nat.le_refl 1
    | none =>
      cases hc : x.closed? with
      | some h =>
        rw [HostCall.eq_closeHandle hc, openHandles_closeHandle]
        exact Nat.le_trans List.length_erase_le ih
      | none => rwa [openHandles_of_steady ⟨ho, hc⟩]

/-- What holds of every proper call and those before it holds throughout the log. -/
theorem proper_of_suffix (hl : Lawful id log) (hs : x :: past <:+ log) :
    x :: past = [.reference id] ∨ Lawful id past ∧ Proper x past := by
  induction hl with
  | attached => exact .inl (List.suffix_cons_iff.1 hs |>.resolve_right (by simp))
  | call hl hx ih =>
    rcases List.suffix_cons_iff.1 hs with e | hs
    · obtain ⟨rfl, rfl⟩ := List.cons.inj e
      exact .inr ⟨hl, hx⟩
    · exact ih hs

theorem of_suffix (hl : Lawful id log) (hs : x :: past <:+ log) : Lawful id (x :: past) := by
  rcases hl.proper_of_suffix hs with e | ⟨hl, hp⟩
  · rw [e]
    exact .attached
  · exact hl.call hp

theorem eq_append_reference (hl : Lawful id log) :
    ∃ middle, log = middle ++ [.reference id] ∧ ∀ x ∈ middle, x.counts = false := by
  induction hl with
  | attached => exact ⟨[], rfl, nofun⟩
  | @call _ x _ hx ih =>
    obtain ⟨middle, rfl, hm⟩ := ih
    exact ⟨x :: middle, rfl, List.forall_mem_cons.2 ⟨hx.uncounted, hm⟩⟩

/-- A handle that was opened is still the only one open, or it is the first one closed since. -/
theorem closed_or_open {later : HostLog} (hl : Lawful id (later ++ x :: past))
    (hx : x.opened? = some h) :
    (openHandles (later ++ x :: past) = [h] ∧ ∀ y ∈ later, y.IsSteady) ∨
      ∃ after between, later = after ++ .closeHandle h :: between ∧ ∀ y ∈ between, y.IsSteady := by
  induction later with
  | nil =>
    rcases hl.proper_of_suffix List.suffix_rfl with e | ⟨-, hp⟩
    · obtain ⟨rfl, -⟩ := List.cons.inj e
      exact nomatch hx
    · rw [List.nil_append, openHandles_of_opened hx, hp.alone h hx]
      exact .inl ⟨rfl, nofun⟩
  | cons y later ih =>
    obtain ⟨hl', hp⟩ := (hl.proper_of_suffix List.suffix_rfl).resolve_left (by simp)
    rcases ih hl' with ⟨hopen, hsteady⟩ | ⟨after, between, rfl, hsteady⟩
    · cases ho : y.opened? with
      | some h' => exact nomatch (hp.alone h' ho).symm.trans hopen
      | none =>
        cases hc : y.closed? with
        | some h' =>
          obtain rfl := HostCall.eq_closeHandle hc
          have hmem : h' ∈ openHandles (later ++ x :: past) := hp.named h' rfl
          rw [hopen] at hmem
          obtain rfl := List.mem_singleton.1 hmem
          exact .inr ⟨[], later, rfl, hsteady⟩
        | none =>
          refine .inl ⟨?_, List.forall_mem_cons.2 ⟨⟨ho, hc⟩, hsteady⟩⟩
          rw [List.cons_append, openHandles_of_steady ⟨ho, hc⟩, hopen]
    · exact .inr ⟨y :: after, between, rfl, hsteady⟩

/-- Handles are opened as often as they are closed, but for those that are open. -/
theorem count_openHandles (hl : Lawful id log) (h : HostHandle) :
    log.countP (·.opened? = some h) =
      log.countP (·.closed? = some h) + (openHandles log).count h := by
  induction hl with
  | attached => rfl
  | @call past x _ hx ih =>
    rw [List.countP_cons, List.countP_cons, ih]
    cases ho : x.opened? with
    | some h' =>
      have hc : x.closed? = none := by
        cases hc : x.closed? with
        | none => rfl
        | some h'' => exact nomatch (HostCall.opened?_of_closed? hc).symm.trans ho
      rw [openHandles_of_opened ho, hc, List.count_cons]
      simp
      omega
    | none =>
      cases hc : x.closed? with
      | some h' =>
        obtain rfl := HostCall.eq_closeHandle hc
        have hmem := List.count_pos_iff.2 (hx.named h' rfl)
        rw [openHandles_closeHandle, List.count_erase]
        by_cases e : h' = h
        · subst e
          simp [HostCall.closed?]
          omega
        · simp [HostCall.closed?, e]
      | none =>
        rw [openHandles_of_steady ⟨ho, hc⟩]
        simp

end Lawful

/-! ## Brackets -/

/-- How the calls that a device has made from its first to its last fit together. -/
structure Bracketed (id : HostDeviceId) (log : HostLog) : Prop where
  /-- The device is referenced by the first call and given back by the last, and by no other. -/
  referenced : ∃ middle, log = .unreference id :: (middle ++ [.reference id]) ∧
    ∀ x ∈ middle, x.counts = false
  /-- No more than one handle is open at any time. -/
  single : ∀ past, past <:+ log → (openHandles past).length ≤ 1
  /-- A call names no handle but one that is open when it is made. -/
  named : ∀ x past h, x :: past <:+ log → x.handle? = some h → h ∈ openHandles past
  /-- A handle that was opened is closed before any other handle is opened or closed. -/
  closed : ∀ later x past h, log = later ++ x :: past → x.opened? = some h →
    ∃ after between, later = after ++ .closeHandle h :: between ∧ ∀ y ∈ between, y.IsSteady
  /-- Each handle is closed just as often as it was opened. -/
  balanced : ∀ h, log.countP (·.opened? = some h) = log.countP (·.closed? = some h)
  /-- Just before a handle is closed, a release of every interface held on it is tried. -/
  released : ∀ h past, .closeHandle h :: past <:+ log → Released h past

/-- A device that has made proper calls, holds no handle and gives its reference back has bracketed
its calls. -/
theorem Lawful.bracketed (hl : Lawful id past) (hopen : openHandles past = []) :
    Bracketed id (.unreference id :: past) where
  referenced := by
    obtain ⟨middle, rfl, hm⟩ := hl.eq_append_reference
    exact ⟨middle, rfl, hm⟩
  single log hs := by
    rcases List.suffix_cons_iff.1 hs with rfl | hs
    · rw [openHandles_of_steady ⟨rfl, rfl⟩]
      exact hl.length_openHandles_le
    · cases log with
      | nil => exact Nat.zero_le 1
      | cons x earlier => exact (hl.of_suffix hs).length_openHandles_le
  named x earlier h hs hx := by
    rcases List.suffix_cons_iff.1 hs with e | hs
    · obtain ⟨rfl, -⟩ := List.cons.inj e
      exact nomatch hx
    · rcases hl.proper_of_suffix hs with e | ⟨-, hp⟩
      · obtain ⟨rfl, -⟩ := List.cons.inj e
        exact nomatch hx
      · exact hp.named h hx
  closed later x earlier h e hx := by
    rcases List.cons_eq_append_iff.1 e with ⟨rfl, e⟩ | ⟨later, rfl, rfl⟩
    · obtain ⟨rfl, -⟩ := List.cons.inj e
      exact nomatch hx
    · rcases hl.closed_or_open hx with ⟨hopen', -⟩ | ⟨after, between, rfl, hsteady⟩
      · exact nomatch hopen.symm.trans hopen'
      · exact ⟨_ :: after, between, rfl, hsteady⟩
  balanced h := by
    rw [List.countP_cons, List.countP_cons, hl.count_openHandles h, hopen]
    rfl
  released h earlier hs := by
    rcases List.suffix_cons_iff.1 hs with e | hs
    · exact nomatch (List.cons.inj e).1
    · rcases hl.proper_of_suffix hs with e | ⟨-, hp⟩
      · exact nomatch (List.cons.inj e).1
      · exact hp.released h rfl

end HostLog

end VirtualUsb
