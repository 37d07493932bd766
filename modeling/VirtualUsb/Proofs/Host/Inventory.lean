import VirtualUsb.Proofs.Host.Log

/-!
# Devices of the host that nobody asked for

Hosts may have other devices plugged in and do all else alike (`Host.withInventory`). Some of what
is plugged in is shown to a guest; `Host.Conceals` says that two hosts differ in no more than
devices that are not, and have names of their own. `Host.Keeps` is the other side of it: what a host
keeps as long as it is asked for no devices but those that are shown.
-/

namespace VirtualUsb

/-! ## Lists -/

/-- Whether two lists have the same devices in the same order, but for hidden ones that may be
anywhere in either. -/
inductive SameBut (hidden : HostDevice → Prop) : List HostDevice → List HostDevice → Prop
  | nil : SameBut hidden [] []
  | both {l l' : List HostDevice} (d : HostDevice) (h : SameBut hidden l l') :
      SameBut hidden (d :: l) (d :: l')
  | left {l l' : List HostDevice} {d : HostDevice} (hd : hidden d) (h : SameBut hidden l l') :
      SameBut hidden (d :: l) l'
  | right {l l' : List HostDevice} {d : HostDevice} (hd : hidden d) (h : SameBut hidden l l') :
      SameBut hidden l (d :: l')

namespace SameBut

variable {hidden : HostDevice → Prop} {l l' : List HostDevice} {p : HostDevice → Bool}

/-- Who looks for no hidden device finds the same in both. -/
theorem filter_eq (h : SameBut hidden l l') (hp : ∀ d, hidden d → p d = false) :
    l.filter p = l'.filter p := by
  induction h with
  | nil => rfl
  | both d _ ih => rw [List.filter_cons, List.filter_cons, ih]
  | left hd _ ih => rw [List.filter_cons_of_neg (by simp [hp _ hd]), ih]
  | right hd _ ih => rw [List.filter_cons_of_neg (by simp [hp _ hd]), ih]

theorem any_eq (h : SameBut hidden l l') (hp : ∀ d, hidden d → p d = false) :
    l.any p = l'.any p := by
  rw [Bool.eq_iff_iff, List.any_eq_true, List.any_eq_true]
  have hmem (d : HostDevice) : d ∈ l ∧ p d ↔ d ∈ l' ∧ p d := by
    rw [← List.mem_filter, h.filter_eq hp, List.mem_filter]
  exact exists_congr hmem

end SameBut

/-- Whether two answers list the same devices but for hidden ones, or are the same error. -/
inductive SameListing (hidden : HostDevice → Prop) :
    Except HostError (List HostDevice) → Except HostError (List HostDevice) → Prop
  | ok {l l' : List HostDevice} (h : SameBut hidden l l') : SameListing hidden (.ok l) (.ok l')
  | error (e : HostError) : SameListing hidden (.error e) (.error e)

/-! ## Inventories -/

/-- What a host says of the devices plugged in, and what it does when one is asked for by name. -/
structure Inventory (σ : Type) where
  deviceList : σ → Except HostError (List HostDevice) × σ
  reference : HostDeviceId → σ → σ
  unreference : HostDeviceId → σ → σ
  openDevice : HostDeviceId → σ → Except HostError HostHandle × σ

def Inventory.logged {σ : Type} (i : Inventory σ) : Inventory (σ × HostLog) where
  deviceList := Host.noting i.deviceList fun _ => .deviceList
  reference id s := (i.reference id s.1, .reference id :: s.2)
  unreference id s := (i.unreference id s.1, .unreference id :: s.2)
  openDevice id := Host.noting (i.openDevice id) (.openDevice id)

namespace Host

variable {σ : Type} (host : Host σ) (i : Inventory σ)

/-- The host with other devices plugged in. -/
def withInventory : Host σ :=
  { host with
    deviceList := i.deviceList
    reference := i.reference
    unreference := i.unreference
    openDevice := i.openDevice }

/-- Whether another inventory differs from that of a host in hidden devices only. These are not
admitted, and none of them has the name of a device that is shown. Whatever the world is, the lists
are the same but for hidden devices, and to ask for a device that is shown comes to the same. -/
structure Conceals (shown : List HostDevice) (admitted : HostDevice → Prop) : Prop where
  listed : ∀ s, SameListing (fun d => ¬ admitted d ∧ ∀ x ∈ shown, x.id ≠ d.id)
    (host.deviceList s).1 (i.deviceList s).1
  onward : ∀ s, (i.deviceList s).2 = (host.deviceList s).2
  reference : ∀ d ∈ shown, i.reference d.id = host.reference d.id
  unreference : ∀ d ∈ shown, i.unreference d.id = host.unreference d.id
  openDevice : ∀ d ∈ shown, i.openDevice d.id = host.openDevice d.id

theorem logged_withInventory :
    (host.withInventory i).logged = host.logged.withInventory i.logged := rfl

variable {host i} {shown : List HostDevice} {admitted : HostDevice → Prop}

theorem Conceals.logged (h : host.Conceals i shown admitted) :
    host.logged.Conceals i.logged shown admitted where
  listed s := h.listed s.1
  onward s := congrArg (·, HostCall.deviceList :: s.2) (h.onward s.1)
  reference d hd := by
    funext s
    exact congrArg (fun f => (f s.1, HostCall.reference d.id :: s.2)) (h.reference d hd)
  unreference d hd := by
    funext s
    exact congrArg (fun f => (f s.1, HostCall.unreference d.id :: s.2)) (h.unreference d hd)
  openDevice d hd := congrArg (noting · (HostCall.openDevice d.id)) (h.openDevice d hd)

/-- A list is answered by both hosts or by neither, and the world is the same afterwards. -/
theorem Conceals.deviceList_cases (h : host.Conceals i shown admitted) (s : σ) :
    (∃ l l' s', host.deviceList s = (.ok l, s') ∧ i.deviceList s = (.ok l', s') ∧
      SameBut (fun d => ¬ admitted d ∧ ∀ x ∈ shown, x.id ≠ d.id) l l') ∨
    ∃ e s', host.deviceList s = (.error e, s') ∧ i.deviceList s = (.error e, s') := by
  have hlisted := h.listed s
  have honward := h.onward s
  generalize i.deviceList s = r at hlisted honward ⊢
  generalize host.deviceList s = r' at hlisted honward ⊢
  obtain ⟨a, s₁⟩ := r
  obtain ⟨a', s₂⟩ := r'
  obtain rfl : s₁ = s₂ := honward
  cases hlisted with
  | ok hsame => exact .inl ⟨_, _, s₁, rfl, rfl, hsame⟩
  | error e => exact .inr ⟨e, s₁, rfl, rfl⟩

theorem handOver_withInventory (t : HostTransfer) (s : σ) :
    (host.withInventory i).handOver t s = host.handOver t s := by
  fun_induction Host.handOver host t s with
  | case1 s hbusy ih =>
    rw [handOver]
    split
    · exact ih
    · rename_i hne
      exact absurd hbusy hne
  | case2 s hne =>
    rw [handOver]
    split
    · rename_i hbusy
      exact absurd hbusy hne
    · rfl

/-! ## What is kept -/

/-- Whether all that a host does keeps something of the world, as long as no device is asked for but
those that are shown. -/
structure Keeps (host : Host σ) (shown : List HostDevice) (P : σ → Prop) : Prop where
  deviceList : ∀ {s}, P s → P (host.deviceList s).2
  reference : ∀ {s}, P s → ∀ d ∈ shown, P (host.reference d.id s)
  unreference : ∀ {s}, P s → ∀ d ∈ shown, P (host.unreference d.id s)
  openDevice : ∀ {s}, P s → ∀ d ∈ shown, P (host.openDevice d.id s).2
  closeHandle : ∀ {s}, P s → ∀ h, P (host.closeHandle h s)
  autoDetach : ∀ {s}, P s → ∀ h enable, P (host.autoDetach h enable s).2
  claim : ∀ {s}, P s → ∀ h i, P (host.claim h i s).2
  release : ∀ {s}, P s → ∀ h i, P (host.release h i s).2
  configuration : ∀ {s}, P s → ∀ h, P (host.configuration h s).2
  setConfiguration : ∀ {s}, P s → ∀ h value, P (host.setConfiguration h value s).2
  setAlternate : ∀ {s}, P s → ∀ h i setting, P (host.setAlternate h i setting s).2
  controlSync : ∀ {s}, P s → ∀ h setup buffer timeout,
    P (host.controlSync h setup buffer timeout s).2
  submit : ∀ {s}, P s → ∀ t, P (host.submit t s).2
  handleEvents : ∀ {s}, P s → ∀ timeout, P (host.handleEvents timeout s).2

theorem Keeps.handOver {P : σ → Prop} (h : host.Keeps shown P) (t : HostTransfer) {s : σ}
    (hs : P s) : P (host.handOver t s).2 := by
  fun_induction Host.handOver host t s with
  | case1 s _ ih => exact ih (h.submit hs t)
  | case2 s _ => exact h.submit hs t

end Host

/-! ## Names of devices in a log -/

def HostCall.device? : HostCall → Option HostDeviceId
  | reference id | unreference id | openDevice id _ => some id
  | _ => none

/-- Whether the calls of a log name no device but those that are shown. -/
def HostLog.NamesOnly (shown : List HostDevice) (log : HostLog) : Prop :=
  ∀ call ∈ log, ∀ id, call.device? = some id → ∃ d ∈ shown, d.id = id

namespace HostLog

variable {shown : List HostDevice} {log : HostLog} {call : HostCall}

theorem NamesOnly.of_none (h : log.NamesOnly shown) (hcall : call.device? = none) :
    NamesOnly shown (call :: log) := by
  refine List.forall_mem_cons.2 ⟨fun id hid => ?_, h⟩
  exact nomatch hcall.symm.trans hid

theorem NamesOnly.of_mem (h : log.NamesOnly shown) {d : HostDevice} (hd : d ∈ shown)
    (hcall : call.device? = some d.id) : NamesOnly shown (call :: log) := by
  refine List.forall_mem_cons.2 ⟨fun id hid => ⟨d, hd, ?_⟩, h⟩
  exact Option.some.inj (hcall.symm.trans hid)

/-- A log names no other devices as long as no others are asked for. -/
theorem keeps_namesOnly {σ : Type} (host : Host σ) (shown : List HostDevice) :
    host.logged.Keeps shown (fun s => NamesOnly shown s.2) where
  deviceList h := h.of_none rfl
  reference h _ hd := h.of_mem hd rfl
  unreference h _ hd := h.of_mem hd rfl
  openDevice h _ hd := h.of_mem hd rfl
  closeHandle h _ := h.of_none rfl
  autoDetach h _ _ := h.of_none rfl
  claim h _ _ := h.of_none rfl
  release h _ _ := h.of_none rfl
  configuration h _ := h.of_none rfl
  setConfiguration h _ _ := h.of_none rfl
  setAlternate h _ _ _ := h.of_none rfl
  controlSync h _ _ _ _ := h.of_none rfl
  submit h _ := h.of_none rfl
  handleEvents h _ := h.of_none rfl

end HostLog

end VirtualUsb
