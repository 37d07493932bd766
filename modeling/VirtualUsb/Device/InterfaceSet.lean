/-!
# Sets of interfaces

The interfaces claimed on a device, each once and in ascending order, the order in which they are
released.
-/

namespace VirtualUsb

/-- An ascending row of interface numbers. -/
structure InterfaceSet where
  toList : List UInt8
  ascending : toList.Pairwise (· < ·)
  deriving DecidableEq

namespace InterfaceSet

def empty : InterfaceSet := ⟨[], .nil⟩

instance : Inhabited InterfaceSet := ⟨empty⟩

instance : Membership UInt8 InterfaceSet := ⟨fun s i => i ∈ s.toList⟩

instance (i : UInt8) (s : InterfaceSet) : Decidable (i ∈ s) :=
  inferInstanceAs (Decidable (i ∈ s.toList))

/-- A row with a number put in its place. -/
def insertInto (i : UInt8) : List UInt8 → List UInt8
  | [] => [i]
  | j :: rest => if i < j then i :: j :: rest else if i = j then j :: rest else j :: insertInto i rest

theorem mem_insertInto {i j : UInt8} {l : List UInt8} :
    j ∈ insertInto i l ↔ j = i ∨ j ∈ l := by
  induction l with
  | nil => simp [insertInto]
  | cons k rest ih =>
    simp only [insertInto]
    split
    · simp
    · split
      · subst i
        simp
      · simp only [List.mem_cons, ih]
        grind

theorem pairwise_insertInto {i : UInt8} {l : List UInt8} (h : l.Pairwise (· < ·)) :
    (insertInto i l).Pairwise (· < ·) := by
  induction l with
  | nil => simp [insertInto]
  | cons k rest ih =>
    obtain ⟨hk, hrest⟩ := List.pairwise_cons.1 h
    simp only [insertInto]
    split
    · rename_i hik
      refine List.pairwise_cons.2 ⟨fun j hj => ?_, h⟩
      rcases List.mem_cons.1 hj with rfl | hj
      · exact hik
      · exact UInt8.lt_trans hik (hk j hj)
    · split
      · exact h
      · rename_i hik hne
        refine List.pairwise_cons.2 ⟨fun j hj => ?_, ih hrest⟩
        rcases mem_insertInto.1 hj with hj | hj
        · have hne' : i.toNat ≠ k.toNat := fun e => hne (UInt8.toNat_inj.1 e)
          rw [UInt8.lt_iff_toNat_lt] at hik ⊢
          rw [hj]
          omega
        · exact hk j hj

def insert (s : InterfaceSet) (i : UInt8) : InterfaceSet :=
  ⟨insertInto i s.toList, pairwise_insertInto s.ascending⟩

def erase (s : InterfaceSet) (i : UInt8) : InterfaceSet :=
  ⟨s.toList.filter (· != i), s.ascending.filter _⟩

@[simp] theorem mem_insert {s : InterfaceSet} {i j : UInt8} :
    j ∈ s.insert i ↔ j = i ∨ j ∈ s := mem_insertInto

@[simp] theorem mem_erase {s : InterfaceSet} {i j : UInt8} :
    j ∈ s.erase i ↔ j ∈ s ∧ j ≠ i := by
  show j ∈ s.toList.filter (· != i) ↔ j ∈ s.toList ∧ j ≠ i
  simp

end InterfaceSet

end VirtualUsb
