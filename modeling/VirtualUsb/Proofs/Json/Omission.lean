import Mathlib.Data.List.Nodup
import VirtualUsb.Json.Coded

/-!
# Members that are left out

An `Omission` says of which members an object is to be rid, wherever in a value it stands
(`Json.without`). `Json.Restores` says what a value of some type comes to when it is read without
these, with any faithful library. A record is read field by field (`Json.fields_without`), and a
field with a default comes to that just if it was left out (`Json.optional_field`).
-/

namespace VirtualUsb.Json

/-! ## Omissions -/

/-- A step from a value to one in it: the member of an object with a key, or an item of an array. -/
inductive Step
  | key (key : String)
  | index (i : Nat)
  deriving DecidableEq

/-- Which members to leave out, each by the steps that lead to it. -/
abbrev Omission := List Step → Bool

namespace Omission

/-- What is left out of the value that a step leads to. -/
def under (o : Omission) (s : Step) : Omission := fun path => o (s :: path)

/-- Whether the member with a key is left out. -/
def drops (o : Omission) (key : String) : Bool := o [.key key]

def nothing : Omission := fun _ => false

end Omission

mutual

/-- A value without some members of its objects. -/
def without (o : Omission) : Json → Json
  | array items => array (withoutItems o 0 items)
  | object members => object (withoutMembers o members)
  | v => v

/-- The items of an array, the first of which has index `i`, without some members. -/
def withoutItems (o : Omission) (i : Nat) : List Json → List Json
  | [] => []
  | v :: rest => v.without (o.under (.index i)) :: withoutItems o (i + 1) rest

def withoutMembers (o : Omission) : List (Option String × Json) → List (Option String × Json)
  | [] => []
  | (none, v) :: rest => (none, v) :: withoutMembers o rest
  | (some k, v) :: rest =>
    if o.drops k then withoutMembers o rest
    else (some k, v.without (o.under (.key k))) :: withoutMembers o rest

end

/-- What is left of the member with a key. -/
def Omission.field (o : Omission) (key : String) (v : Json) : Option Json :=
  if o.drops key then none else some (v.without (o.under (.key key)))

/-- What is left of the members of a record. -/
def Omission.kept (o : Omission) (members : List (String × Json)) : List (String × Json) :=
  members.filterMap fun (k, v) => (o.field k v).map (k, ·)

theorem Omission.kept_cons (o : Omission) (k : String) (v : Json)
    (members : List (String × Json)) : o.kept ((k, v) :: members) =
      ((o.field k v).map (k, ·)).toList ++ o.kept members := by
  unfold kept
  rw [List.filterMap_cons]
  dsimp only
  cases o.field k v <;> rfl

variable (o : Omission)

theorem without_array (items : List Json) :
    (array items).without o = array (items.mapIdx fun i v => v.without (o.under (.index i))) := by
  have hitems (n : Nat) (l : List Json) :
      withoutItems o n l = l.mapIdx fun i v => v.without (o.under (.index (n + i))) := by
    induction l generalizing n with
    | nil => rfl
    | cons v l ih =>
      rw [withoutItems, ih, List.mapIdx_cons]
      simp only [Nat.add_assoc, Nat.add_comm 1, Nat.add_zero]
  rw [without, hitems]
  simp only [Nat.zero_add]

theorem without_record (members : List (String × Json)) :
    (record members).without o = record (o.kept members) := by
  unfold record
  rw [without]
  refine congrArg object ?_
  induction members with
  | nil => rfl
  | cons m members ih =>
    obtain ⟨k, v⟩ := m
    rw [List.map_cons, withoutMembers, ih, o.kept_cons, List.map_append]
    unfold Omission.field
    split <;> rfl

theorem keys_kept (members : List (String × Json)) :
    ((o.kept members).map (·.1)).Sublist (members.map (·.1)) := by
  induction members with
  | nil => exact .slnil
  | cons m members ih =>
    obtain ⟨k, v⟩ := m
    rw [o.kept_cons]
    cases o.field k v with
    | none => exact ih.cons k
    | some w => exact ih.cons_cons k

theorem Plain.without {v : Json} {depth : Nat} (h : v.Plain depth) : (v.without o).Plain depth := by
  induction h generalizing o with
  | null => exact .null
  | bool b => exact .bool b
  | natural h => exact .natural h
  | text s => exact .text s
  | array _ ih =>
    rw [without_array]
    refine .array fun v hv => ?_
    obtain ⟨i, hi, rfl⟩ := List.mem_mapIdx.1 hv
    exact ih _ (List.getElem_mem hi) _
  | record hkeys _ ih =>
    rw [without_record]
    refine .record (hkeys.sublist (keys_kept o _)) fun m hm => ?_
    obtain ⟨⟨k, v⟩, hv, hfield⟩ := List.mem_filterMap.1 hm
    obtain ⟨w, hw, rfl⟩ := Option.map_eq_some_iff.1 hfield
    unfold Omission.field at hw
    split at hw
    · exact nomatch hw
    · obtain rfl := Option.some.inj hw
      exact ih _ hv _

theorem Plain.without_nothing {v : Json} {depth : Nat} (h : v.Plain depth) :
    v.without .nothing = v := by
  induction h with
  | null | bool | natural | text => rfl
  | @array _ items _ ih =>
    rw [without_array]
    refine congrArg Json.array (List.ext_getElem? fun i => ?_)
    rw [List.getElem?_mapIdx]
    cases hv : items[i]? with
    | none => rfl
    | some v => exact congrArg some (ih v (List.mem_of_getElem? hv))
  | @record _ members hkeys h ih =>
    rw [without_record]
    refine congrArg Json.record ?_
    clear hkeys h
    induction members with
    | nil => rfl
    | cons m members ihm =>
      obtain ⟨hm, hmembers⟩ := List.forall_mem_cons.1 ih
      rw [Omission.kept_cons, ihm hmembers]
      exact congrArg (fun v => (m.1, v) :: members) hm

/-- What nests less deep is plain to any greater depth. -/
theorem Plain.mono {v : Json} {depth depth' : Nat} (h : v.Plain depth) (hle : depth ≤ depth') :
    v.Plain depth' := by
  induction h generalizing depth' with
  | null => exact .null
  | bool b => exact .bool b
  | natural h => exact .natural h
  | text s => exact .text s
  | array _ ih =>
    obtain ⟨depth', rfl⟩ := Nat.exists_eq_add_of_le' (Nat.le_of_add_left_le hle)
    exact .array fun v hv => ih v hv (by omega)
  | record hkeys _ ih =>
    obtain ⟨depth', rfl⟩ := Nat.exists_eq_add_of_le' (Nat.le_of_add_left_le hle)
    exact .record hkeys fun m hm => ih m hm (by omega)

/-! ## Reading what is left -/

/-- Whether a library reads a value as another when some members are left out. -/
def Restores {α : Type} [Coded α] (lib : Library) (o : Omission) (a a' : α) : Prop :=
  Coded.ofJson? lib ((toJson a).without o) = some a'

/-- A field of a record: its default if it is left out. -/
def Omission.pick {α : Type} (o : Omission) (key : String) (default value : α) : α :=
  if o.drops key then default else value

/-- The items of a field of a record, each without what is left out of it. -/
def Omission.items {α : Type} (o : Omission) (key : String) (f : Omission → α → α) (l : List α) :
    List α := l.mapIdx fun i a => f ((o.under (.key key)).under (.index i)) a

section

variable {α : Type}

theorem Omission.pick_nothing (key : String) (default value : α) :
    nothing.pick key default value = value := rfl

theorem Omission.items_nothing {f : Omission → α → α} (h : ∀ a, f nothing a = a) (key : String)
    (l : List α) : nothing.items key f l = l := by
  refine List.ext_getElem? fun i => ?_
  unfold items
  rw [List.getElem?_mapIdx]
  cases l[i]? with
  | none => rfl
  | some a => exact congrArg some (h a)

end

section

variable {α : Type} [Coded α] {lib : Library} {o}

theorem optional_field {key : String} {a a' : α} (h : Restores lib (o.under (.key key)) a a')
    (default : α) :
    lib.optional default (o.field key (toJson a)) = some (o.pick key default a') := by
  unfold Omission.field Omission.pick
  split
  · rfl
  · exact h

theorem required_field {key : String} {a a' : α} (h : Restores lib (o.under (.key key)) a a')
    (hkey : o.drops key = false) : lib.required (o.field key (toJson a)) = some a' := by
  unfold Omission.field
  rw [hkey]
  exact h

end

theorem mapM_mapIdx_map {α β : Type} {f : β → Option α} {g : Nat → β → β} {w : α → β}
    {k : Nat → α → α} (h : ∀ i a, f (g i (w a)) = some (k i a)) (l : List α) :
    ((l.map w).mapIdx g).mapM f = some (l.mapIdx k) := by
  induction l generalizing g k with
  | nil => rfl
  | cons a l ih =>
    rw [List.map_cons, List.mapIdx_cons, List.mapM_cons, h, ih fun i a => h (i + 1) a,
      List.mapIdx_cons]
    rfl

theorem lookup_kept_of_not_mem {key : String} {members : List (String × Json)}
    (h : key ∉ members.map (·.1)) : (o.kept members).lookup key = none := by
  rw [List.lookup_eq_none_iff]
  intro m hm
  have hmem := (keys_kept o members).subset (List.mem_map.2 ⟨m, hm, rfl⟩)
  have hne : key ≠ m.1 := fun e => h (e ▸ hmem)
  simpa using hne

/-- Under a key of a record stands what is left of the field, if no other has that key. -/
theorem lookup_kept {key : String} {v : Json} {members : List (String × Json)}
    (hnodup : (members.map (·.1)).Nodup) (hm : (key, v) ∈ members) :
    (o.kept members).lookup key = o.field key v := by
  induction members with
  | nil => exact nomatch hm
  | cons m members ih =>
    obtain ⟨k, w⟩ := m
    obtain ⟨hk, hrest⟩ := List.nodup_cons.1 hnodup
    rw [o.kept_cons, List.lookup_append]
    rcases List.mem_cons.1 hm with e | hmem
    · obtain ⟨rfl, rfl⟩ := Prod.mk.inj e
      rw [lookup_kept_of_not_mem o hk]
      cases o.field key v <;> simp
    · have hne : (key == k) = false := by
        rw [beq_eq_false_iff_ne]
        rintro rfl
        exact hk (List.mem_map.2 ⟨_, hmem, rfl⟩)
      rw [ih hrest hmem]
      cases o.field k w <;> simp [List.lookup_cons, hne]

section

variable {lib : Library} (hlib : lib.Faithful) {o}

include hlib

/-- The fields of a record are what is left of them. -/
theorem fields_without {keys : List String} {members : List (String × Json)}
    (hkeys : members.map (·.1) = keys) (hnodup : keys.Nodup) :
    lib.fields keys ((record members).without o) =
      some (members.map fun (k, v) => o.field k v) := by
  subst hkeys
  rw [without_record, hlib.fields_record hnodup (keys_kept o members), List.map_map]
  exact congrArg some (List.map_congr_left fun m hm => lookup_kept o hnodup hm)

theorem fields_without_bind {α : Type} {keys : List String} {members : List (String × Json)}
    (f : List (Option Json) → Option α) (hkeys : members.map (·.1) = keys) (hnodup : keys.Nodup) :
    (lib.fields keys ((record members).without o)).bind f =
      f (members.map fun (k, v) => o.field k v) := by
  rw [fields_without hlib hkeys hnodup, Option.bind_some]

end

/-! ## Values of a type -/

/-- A type whose values are plain when they are written. -/
class Writable (α : Type) (depth : outParam Nat) [Coded α] : Prop where
  plain : ∀ a : α, (toJson a).Plain depth

theorem Writable.plain_of_le {α : Type} {depth depth' : Nat} [Coded α] [Writable α depth] (a : α)
    (h : depth ≤ depth') : (toJson a).Plain depth' := (plain a).mono h

/-- A type whose values are written without members, not as null, and read back as they were. -/
class Scalar (α : Type) [Coded α] : Prop extends Writable α 0 where
  without : ∀ (o : Omission) (a : α), (toJson a).without o = toJson a
  ne_null : ∀ a : α, toJson a ≠ null
  ofJson? : ∀ {lib : Library}, lib.Faithful → ∀ a : α, Coded.ofJson? lib (toJson a) = some a

theorem map_natural_ofNat {α : Type} {lib : Library} (hlib : lib.Faithful) {f : Nat → α} {a : α}
    {n bound : Nat} (h : n < bound) (hbound : bound ≤ UInt64.size) (hf : f n = a) :
    (lib.natural bound (ofNat n)).map f = some a := by
  rw [hlib.natural_ofNat h hbound, Option.map_some, hf]

instance : Scalar Bool where
  plain b := .bool b
  without _ _ := rfl
  ne_null _ := nofun
  ofJson? hlib := hlib.flag_bool

instance : Scalar String where
  plain s := .text s
  without _ _ := rfl
  ne_null _ := nofun
  ofJson? hlib := hlib.text_ofText

instance : Scalar UInt8 where
  plain n := .natural (Nat.lt_trans n.toNat_lt (by decide))
  without _ _ := rfl
  ne_null _ := nofun
  ofJson? hlib n := map_natural_ofNat hlib n.toNat_lt (by decide) UInt8.ofNat_toNat

instance : Scalar UInt16 where
  plain n := .natural (Nat.lt_trans n.toNat_lt (by decide))
  without _ _ := rfl
  ne_null _ := nofun
  ofJson? hlib n := map_natural_ofNat hlib n.toNat_lt (by decide) UInt16.ofNat_toNat

instance : Scalar UInt64 where
  plain n := .natural n.toNat_lt
  without _ _ := rfl
  ne_null _ := nofun
  ofJson? hlib n := map_natural_ofNat hlib n.toNat_lt (by decide) UInt64.ofNat_toNat

instance {α : Type} {depth : Nat} [Coded α] [Writable α depth] : Writable (Option α) depth where
  plain
    | none => .null
    | some a => Writable.plain a

instance {α : Type} {depth : Nat} [Coded α] [Writable α depth] :
    Writable (List α) (depth + 1) where
  plain l := by
    refine .array fun v hv => ?_
    obtain ⟨a, -, rfl⟩ := List.mem_map.1 hv
    exact Writable.plain a

section

variable {α : Type} [Coded α] {lib : Library} (hlib : lib.Faithful)

include hlib

namespace Restores

theorem scalar [Scalar α] (a : α) : Restores lib o a a := by
  unfold Restores
  rw [Scalar.without, Scalar.ofJson? hlib]

/-- Sizes are read back as long as they have 64 bits. -/
theorem nat {n : Nat} (h : n < UInt64.size) : Restores lib o n n :=
  hlib.natural_ofNat h Nat.le.refl

theorem option [Scalar α] (a : Option α) : Restores lib o a a := by
  unfold Restores
  cases a with
  | none =>
    show (lib.present null).elim (some none) _ = some none
    rw [hlib.present_null]
    rfl
  | some a =>
    show (lib.present ((toJson a).without o)).elim (some none)
      (fun v => (Coded.ofJson? lib v).map some) = some (some a)
    rw [Scalar.without, hlib.present_of_ne_null (Scalar.ne_null a)]
    exact congrArg (Option.map some) (Scalar.ofJson? hlib a)

theorem list {f : Omission → α → α}
    (h : ∀ i a, Restores lib (o.under (.index i)) a (f (o.under (.index i)) a)) (l : List α) :
    Restores lib o l (l.mapIdx fun i a => f (o.under (.index i)) a) := by
  unfold Restores
  show (lib.items ((array (l.map toJson)).without o)).bind (·.mapM (Coded.ofJson? lib)) = _
  rw [without_array, hlib.items_array, Option.bind_some]
  exact mapM_mapIdx_map h l

end Restores

variable {o}

theorem optional_scalar [Scalar α] (key : String) (default a : α) :
    lib.optional default (o.field key (toJson a)) = some (o.pick key default a) :=
  optional_field (.scalar _ hlib a) default

theorem optional_option [Scalar α] (key : String) (default a : Option α) :
    lib.optional default (o.field key (toJson a)) = some (o.pick key default a) :=
  optional_field (.option _ hlib a) default

theorem optional_list {f : Omission → α → α} (key : String) (default l : List α)
    (h : ∀ i a, Restores lib ((o.under (.key key)).under (.index i)) a
      (f ((o.under (.key key)).under (.index i)) a)) :
    lib.optional default (o.field key (toJson l)) =
      some (o.pick key default (o.items key f l)) :=
  optional_field (.list _ hlib h l) default

end

end VirtualUsb.Json
