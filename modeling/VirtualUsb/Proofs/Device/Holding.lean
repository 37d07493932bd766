import VirtualUsb.Proofs.Device.Readings

/-!
# Handles that are open at the host

The handles that are open at the host are those that the devices of a roster hold, each as often as
it is held (`Roster.AccountsFor`). Devices keep a handle open for themselves only, so this is kept
by whatever becomes of them in the course of a call (`Roster.AccountsFor.move`).
-/

namespace VirtualUsb

/-! ## One device -/

namespace HostLog

variable {log : HostLog} {others : List HostHandle}

/-- Whether the handles that are open after some calls are the one that a device has, if it has any,
and some others. -/
def OpenFor (others : List HostHandle) (handle : Option HostHandle) (_claimed : InterfaceSet)
    (log : HostLog) : Prop :=
  (openHandles log).Perm (handle.toList ++ others)

theorem kept_openFor (others : List HostHandle) : Kept (OpenFor others) where
  idle h hx _ := by
    unfold OpenFor
    rw [openHandles_of_steady (HostCall.steady_of_isIdle hx).1]
    exact h
  opened h device handle _ := by
    unfold OpenFor
    rw [openHandles_of_opened rfl]
    exact h.cons handle
  claim h i := by
    unfold OpenFor
    rw [openHandles_of_steady ⟨rfl, rfl⟩]
    exact h
  release h i := by
    unfold OpenFor
    rw [openHandles_of_steady ⟨rfl, rfl⟩]
    exact h
  closed {handle} _ _ h row hrow _ _ := by
    unfold OpenFor
    rw [openHandles_closeHandle, openHandles_row hrow]
    refine (h.erase handle).trans (List.Perm.of_eq ?_)
    exact List.erase_cons_head handle others

end HostLog

namespace Device

open HostLog (openHandles)

variable {σ τ : Type}

/-- Whether a device knows nothing of what the world keeps besides its own part, unless it stands
for a device of the host. -/
def IsApart : Device (σ × τ) → Prop
  | passthrough _ => True
  | emulated e => ∀ p ∈ e.peripheral, p.IsApart
  | external x => x.IsApart

/-- Whether the handles that are open at the host are that of a device, if it holds one, and some
others that it knows nothing of. -/
structure AccountsFor (d : Device (σ × HostLog)) (others : List HostHandle) (log : HostLog) :
    Prop where
  apart : d.IsApart
  handles : (openHandles log).Perm (d.hostHandle?.toList ++ others)

variable (host : Host σ) {d : Device (σ × HostLog)} {s : σ × HostLog} {others : List HostHandle}

/-- Whatever method of a device is called, it opens and closes no handle but its own. -/
theorem AccountsFor.perform (h : d.AccountsFor others s.2) {call : DeviceCall}
    (hcall : call.OfBus) : (d.perform host.logged s call).1.AccountsFor others
      (d.perform host.logged s call).2.2 := by
  obtain ⟨hapart, hhandles⟩ := h
  cases d with
  | passthrough p =>
    obtain ⟨q, s', hperform, -, hq⟩ := follows_perform host (HostLog.kept_openFor others)
      (p := p) (s := s) ⟨rfl, hhandles⟩ call
    rw [hperform]
    exact ⟨trivial, hq⟩
  | emulated e =>
    obtain ⟨e', s', hperform, hapart', hs⟩ := perform_emulated host.logged (s := s) hcall hapart
    rw [hperform]
    exact ⟨hapart', hs.symm ▸ hhandles⟩
  | external x =>
    obtain ⟨x', s', hperform, hapart', hs⟩ := perform_external host.logged (s := s) hcall hapart
    rw [hperform]
    exact ⟨hapart', hs.symm ▸ hhandles⟩

theorem AccountsFor.discard (h : d.AccountsFor others s.2) :
    (openHandles (d.discard host.logged s).2).Perm others := by
  cases d with
  | passthrough p =>
    obtain ⟨-, hclosed⟩ := Passthrough.follows_close host (HostLog.kept_openFor others)
      (p := p) (s := s) ⟨rfl, h.handles⟩
    rw [p.handle_close host.logged s] at hclosed
    exact hclosed
  | emulated | external => exact h.handles

end Device

/-! ## All devices -/

namespace Roster

open HostLog (openHandles)

section

variable {σ : Type} {r : Roster σ} {key : DeviceKey} {d : Device σ} {h : HostHandle}

/-- Whether a device that is still there holds a handle of the host. -/
def Holds (r : Roster σ) (key : DeviceKey) (h : HostHandle) : Prop :=
  ∃ d, r.get? key = some d ∧ d.hostHandle? = some h

def hostHandles (r : Roster σ) : List HostHandle :=
  r.entries.toList.filterMap (·.bind Device.hostHandle?)

theorem mem_hostHandles : h ∈ r.hostHandles ↔ ∃ key, r.Holds key h := by
  unfold hostHandles
  rw [List.mem_filterMap]
  constructor
  · rintro ⟨entry, hmem, hentry⟩
    obtain ⟨d, rfl, hd⟩ := Option.bind_eq_some_iff.1 hentry
    obtain ⟨i, hi⟩ := Array.mem_iff_getElem?.1 (Array.mem_toList_iff.1 hmem)
    exact ⟨⟨i⟩, d, Option.join_eq_some_iff.2 hi, hd⟩
  · rintro ⟨key, d, hd, hh⟩
    refine ⟨some d, ?_, hh⟩
    exact Array.mem_toList_iff.2 (Array.mem_of_getElem? (Option.join_eq_some_iff.1 hd))

theorem hostHandles_enroll (r : Roster σ) (d : Device σ) :
    (r.enroll d).hostHandles = r.hostHandles ++ d.hostHandle?.toList := by
  unfold hostHandles enroll
  rw [Array.toList_push, List.filterMap_append]
  rfl

theorem hostHandles_split (hd : r.get? key = some d) :
    ∃ others, r.hostHandles.Perm (d.hostHandle?.toList ++ others) ∧
      (∀ d', (r.set key d').hostHandles.Perm (d'.hostHandle?.toList ++ others)) ∧
      (r.retire key).hostHandles.Perm others := by
  have he : r.entries.toList[key.index]? = some (some d) := by
    rw [Array.getElem?_toList]
    exact Option.join_eq_some_iff.1 hd
  obtain ⟨hlt, hget⟩ := List.getElem?_eq_some_iff.1 he
  let before := (r.entries.toList.take key.index).filterMap (·.bind Device.hostHandle?)
  let behind := (r.entries.toList.drop (key.index + 1)).filterMap (·.bind Device.hostHandle?)
  have hset (entry : Option (Device σ)) : (r.entries.toList.set key.index entry).filterMap
      (·.bind Device.hostHandle?) = before ++ ((entry.bind Device.hostHandle?).toList ++ behind) := by
    rw [List.set_eq_take_append_cons_drop, if_pos hlt, List.filterMap_append, List.filterMap_cons]
    cases entry.bind Device.hostHandle? <;> rfl
  have hperm (entry : Option (Device σ)) : (before ++ ((entry.bind Device.hostHandle?).toList ++
      behind)).Perm ((entry.bind Device.hostHandle?).toList ++ (before ++ behind)) :=
    List.perm_append_comm_assoc ..
  refine ⟨before ++ behind, ?_, fun d' => ?_, ?_⟩
  · rw [hostHandles, ← List.set_getElem_self hlt, hget, hset]
    exact hperm (some d)
  · rw [hostHandles, set, Array.toList_setIfInBounds, hset]
    exact hperm (some d')
  · rw [hostHandles, retire, Array.toList_setIfInBounds, hset]
    exact hperm none

end

variable {σ : Type} {host : Host σ} {op : Operation (σ × HostLog)}

/-- Whether the handles that are open at the host are those that devices hold, which know nothing
else of the log. -/
structure AccountsFor (r : Roster (σ × HostLog)) (log : HostLog) : Prop where
  apart : ∀ key d, r.get? key = some d → d.IsApart
  handles : (openHandles log).Perm r.hostHandles

namespace AccountsFor

theorem mem_openHandles {r : Roster (σ × HostLog)} {log : HostLog} (hr : r.AccountsFor log)
    {h : HostHandle} : h ∈ openHandles log ↔ ∃ key, r.Holds key h :=
  hr.handles.mem_iff.trans mem_hostHandles

/-- Whatever becomes of the devices in the course of a call, they account for the handles that are
open, as long as none comes to them with a handle of its own. -/
theorem move {x y : Roster (σ × HostLog) × σ × HostLog} (h : x.1.AccountsFor x.2.2)
    (hm : Move host.logged op x y)
    (hop : ∀ d, op = .attach d → d.hostHandle? = none ∧ d.IsApart) : y.1.AccountsFor y.2.2 := by
  cases hm with
  | @perform r s key d call hcall hd =>
    obtain ⟨others, hsplit, hset, -⟩ := hostHandles_split hd
    have hd' := Device.AccountsFor.perform host ⟨h.apart key d hd, h.handles.trans hsplit⟩
      hcall.ofBus
    refine ⟨fun k e he => ?_, hd'.handles.trans (hset _).symm⟩
    rw [get?_set_of_get? hd] at he
    split at he
    · obtain rfl := Option.some.inj he
      exact hd'.apart
    · exact h.apart k e he
  | @discard r s key d hd =>
    obtain ⟨others, hsplit, -, hretire⟩ := hostHandles_split hd
    have hd' := Device.AccountsFor.discard host ⟨h.apart key d hd, h.handles.trans hsplit⟩
    refine ⟨fun k e he => ?_, hd'.trans hretire.symm⟩
    rw [get?_retire] at he
    split at he
    · exact nomatch he
    · exact h.apart k e he
  | @enroll r s d hattach =>
    obtain ⟨hnone, hapart⟩ := hop d hattach
    refine ⟨fun k e he => ?_, ?_⟩
    · rw [get?_enroll] at he
      split at he
      · obtain rfl := Option.some.inj he
        exact hapart
      · exact h.apart k e he
    · rw [hostHandles_enroll, hnone]
      exact h.handles.trans (List.Perm.of_eq (List.append_nil _).symm)

end AccountsFor

end Roster

end VirtualUsb
