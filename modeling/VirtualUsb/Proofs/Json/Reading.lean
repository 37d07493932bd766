import VirtualUsb.Json.Standard
import VirtualUsb.Proofs.Json.Words

/-!
# What is written is read back

A plain value is read back from what is written of it (`Json.read?_render`). The induction carries
along how the value is spelled (`Json.Spelled`): as which characters, that these make up some
tokens, and that the reader takes these tokens for the value, whatever array or object it stands in.
So the library that comes along is one to rely on (`Json.Library.faithful_standard`).
-/

namespace VirtualUsb

/-! ## Tokens -/

namespace Token

/-- Whether some characters are read as some tokens, with whatever fuel is enough for them. -/
def Lexes (cs : List Char) (ts : List Token) : Prop :=
  ∀ done fuel, cs.length ≤ fuel → scan done fuel cs = some (done.reverse ++ ts)

variable {w rest : List Char} {ts : List Token} {t : Token}

theorem Lexes.nil : Lexes [] [] := by
  intro done fuel _
  rw [scan, List.append_nil]

theorem Lexes.word (h : Lexes rest ts) (hnext : next (w ++ rest) = some (some t, rest))
    (hw : 0 < w.length) : Lexes (w ++ rest) (t :: ts) := by
  intro done fuel hfuel
  rw [List.length_append] at hfuel
  cases fuel with
  | zero => omega
  | succ fuel =>
    rw [scan, hnext]
    · dsimp only
      rw [h (t :: done) fuel (by omega), List.reverse_cons, List.append_assoc]
      rfl
    · intro hnil
      rw [(List.append_eq_nil_iff.1 hnil).1] at hw
      exact nomatch hw

/-- Whether a character is a word by itself. -/
def IsMark (c : Char) (t : Token) : Prop := ∀ rest, next (c :: rest) = some (some t, rest)

theorem Lexes.mark {c : Char} (h : Lexes rest ts) (hc : IsMark c t) : Lexes (c :: rest) (t :: ts) :=
  h.word (w := [c]) (hc rest) Nat.zero_lt_one

theorem Lexes.quote (h : Lexes rest ts) (s : String) :
    Lexes ((Json.quote s).toList ++ rest) (.string (some s) :: ts) := by
  refine h.word (next_quote s rest) ?_
  rw [toList_quote]
  exact Nat.zero_lt_succ _

theorem stops_nil : Stops [] := nofun

theorem stops_cons {c : Char} (h : isNumeric c = false) (rest : List Char) : Stops (c :: rest) := by
  intro d hd
  obtain rfl := Option.some.inj hd
  exact h

end Token

namespace Json

open Token (Lexes Stops stops_cons)
open ReaderState (run)

/-- How a value is spelled, as some characters that make up some tokens. -/
structure Spelled (v : Json) (cs : List Char) (us : List Token) : Prop where
  written : ∀ out, (write out v).toList = out.toList ++ cs
  lexes : ∀ {rest ts}, Stops rest → Lexes rest ts → Lexes (cs ++ rest) (us ++ ts)
  read : ∀ frames ts, run (.value frames) (us ++ ts) = run (.after frames v) ts
  first : ∀ frames ts,
    run (.itemOrEnd frames) (us ++ ts) = run (.value (.array [] :: frames)) (us ++ ts)

/-! ## Arrays -/

/-- How items are spelled that stand in an array behind a first one. -/
structure SpelledItems (items : List Json) (cs : List Char) (us : List Token) : Prop where
  written : ∀ out, (writeItems out false items).toList = out.toList ++ cs
  stops : ∀ {rest}, Stops rest → Stops (cs ++ rest)
  lexes : ∀ {rest ts}, Stops rest → Lexes rest ts → Lexes (cs ++ rest) (us ++ ts)
  read : ∀ frames done v ts, run (.after (.array done :: frames) v) (us ++ .closeBracket :: ts) =
    run (.after frames (.array ((v :: done).reverse ++ items))) ts

theorem exists_spelledItems {items : List Json} (h : ∀ v ∈ items, ∃ cs us, Spelled v cs us) :
    ∃ cs us, SpelledItems items cs us := by
  induction items with
  | nil =>
    refine ⟨[], [], ⟨fun out => (List.append_nil _).symm, id, fun _ => id,
      fun frames done v ts => ?_⟩⟩
    rw [List.append_nil]
    rfl
  | cons v items ih =>
    obtain ⟨⟨cs, us, hv⟩, hitems⟩ := List.forall_mem_cons.1 h
    obtain ⟨cs', us', hrest⟩ := ih hitems
    refine ⟨',' :: (cs ++ cs'), .comma :: (us ++ us'), ⟨fun out => ?_, fun _ => ?_, ?_, ?_⟩⟩
    · rw [writeItems, if_neg Bool.false_ne_true, hrest.written, hv.written, String.toList_append]
      simp
    · exact stops_cons rfl _
    · intro rest ts hstops hlex
      have hitems := hv.lexes (hrest.stops hstops) (hrest.lexes hstops hlex)
      simp only [List.cons_append, List.append_assoc]
      exact hitems.mark fun _ => rfl
    · intro frames done v₀ ts
      simp only [List.cons_append, List.append_assoc]
      show run (.value (.array (v₀ :: done) :: frames)) _ = _
      rw [hv.read, hrest.read]
      simp

theorem exists_spelled_array {items : List Json} (h : ∀ v ∈ items, ∃ cs us, Spelled v cs us) :
    ∃ cs us, Spelled (array items) cs us := by
  cases items with
  | nil =>
    refine ⟨['[', ']'], [.openBracket, .closeBracket], ⟨fun out => ?_, fun _ hlex => ?_, ?_, ?_⟩⟩
    · rw [write, writeItems, String.toList_append, String.toList_append, List.append_assoc]
      rfl
    · exact (hlex.mark fun _ => rfl).mark fun _ => rfl
    · exact fun frames ts => rfl
    · exact fun frames ts => rfl
  | cons v items =>
    obtain ⟨⟨cs, us, hv⟩, hitems⟩ := List.forall_mem_cons.1 h
    obtain ⟨cs', us', hrest⟩ := exists_spelledItems hitems
    refine ⟨'[' :: (cs ++ (cs' ++ [']'])), .openBracket :: (us ++ (us' ++ [.closeBracket])),
      ⟨fun out => ?_, fun hstops hlex => ?_, fun frames ts => ?_, fun frames ts => rfl⟩⟩
    · rw [write, writeItems, if_pos rfl, String.toList_append, hrest.written, hv.written,
        String.toList_append]
      simp
    · have hend := hlex.mark (c := ']') fun _ => rfl
      have hstop (rest : List Char) : Stops (']' :: rest) := stops_cons rfl rest
      have hitems := hv.lexes (hrest.stops (hstop _)) (hrest.lexes (hstop _) hend)
      simp only [List.cons_append, List.append_assoc, List.nil_append]
      exact hitems.mark fun _ => rfl
    · simp only [List.cons_append, List.append_assoc, List.nil_append]
      show run (.itemOrEnd frames) _ = _
      rw [hv.first, hv.read, hrest.read]
      rfl

/-! ## Objects -/

/-- How members are spelled that stand in an object behind a first one. -/
structure SpelledMembers (members : List (String × Json)) (cs : List Char) (us : List Token) :
    Prop where
  written : ∀ out, (writeMembers out false (members.map fun (k, v) => (some k, v))).toList =
    out.toList ++ cs
  stops : ∀ {rest}, Stops rest → Stops (cs ++ rest)
  lexes : ∀ {rest ts}, Stops rest → Lexes rest ts → Lexes (cs ++ rest) (us ++ ts)
  read : ∀ frames done k v ts,
    run (.after (.object done k :: frames) v) (us ++ .closeBrace :: ts) =
      run (.after frames (.object (((k, v) :: done).reverse ++
        members.map fun (k, v) => (some k, v)))) ts

theorem exists_spelledMembers {members : List (String × Json)}
    (h : ∀ m ∈ members, ∃ cs us, Spelled m.2 cs us) :
    ∃ cs us, SpelledMembers members cs us := by
  induction members with
  | nil =>
    refine ⟨[], [], ⟨fun out => (List.append_nil _).symm, id, fun _ => id,
      fun frames done k v ts => ?_⟩⟩
    rw [List.map_nil, List.append_nil]
    rfl
  | cons m members ih =>
    obtain ⟨k, v⟩ := m
    obtain ⟨⟨cs, us, hv⟩, hmembers⟩ := List.forall_mem_cons.1 h
    obtain ⟨cs', us', hrest⟩ := ih hmembers
    refine ⟨',' :: ((quote k).toList ++ ':' :: (cs ++ cs')),
      .comma :: .string (some k) :: .colon :: (us ++ us'), ⟨fun out => ?_, fun _ => ?_, ?_, ?_⟩⟩
    · rw [List.map_cons, writeMembers, if_neg Bool.false_ne_true, hrest.written, hv.written]
      simp [quote?]
    · exact stops_cons rfl _
    · intro rest ts hstops hlex
      have hvalue := hv.lexes (hrest.stops hstops) (hrest.lexes hstops hlex)
      have hmember := hvalue.mark (c := ':') fun _ => rfl
      simp only [List.cons_append, List.append_assoc]
      exact (hmember.quote k).mark fun _ => rfl
    · intro frames done k₀ v₀ ts
      simp only [List.cons_append, List.append_assoc]
      show run (.value (.object ((k₀, v₀) :: done) (some k) :: frames)) _ = _
      rw [hv.read, hrest.read]
      simp

theorem exists_spelled_record {members : List (String × Json)}
    (h : ∀ m ∈ members, ∃ cs us, Spelled m.2 cs us) :
    ∃ cs us, Spelled (record members) cs us := by
  cases members with
  | nil =>
    refine ⟨['\x7b', '\x7d'], [.openBrace, .closeBrace], ⟨fun out => ?_, fun _ hlex => ?_, ?_, ?_⟩⟩
    · rw [record, List.map_nil, write, writeMembers, String.toList_append, String.toList_append,
        List.append_assoc]
      rfl
    · exact (hlex.mark fun _ => rfl).mark fun _ => rfl
    · exact fun frames ts => rfl
    · exact fun frames ts => rfl
  | cons m members =>
    obtain ⟨k, v⟩ := m
    obtain ⟨⟨cs, us, hv⟩, hmembers⟩ := List.forall_mem_cons.1 h
    obtain ⟨cs', us', hrest⟩ := exists_spelledMembers hmembers
    refine ⟨'\x7b' :: ((quote k).toList ++ ':' :: (cs ++ (cs' ++ ['\x7d']))),
      .openBrace :: .string (some k) :: .colon :: (us ++ (us' ++ [.closeBrace])),
      ⟨fun out => ?_, fun hstops hlex => ?_, fun frames ts => ?_, fun frames ts => rfl⟩⟩
    · rw [record, List.map_cons, write, writeMembers, if_pos rfl, String.toList_append,
        hrest.written, hv.written]
      simp [quote?]
    · have hend := hlex.mark (c := '\x7d') fun _ => rfl
      have hstop (rest : List Char) : Stops ('\x7d' :: rest) := stops_cons rfl rest
      have hvalue := hv.lexes (hrest.stops (hstop _)) (hrest.lexes (hstop _) hend)
      have hmember := hvalue.mark (c := ':') fun _ => rfl
      simp only [List.cons_append, List.append_assoc, List.nil_append]
      exact (hmember.quote k).mark fun _ => rfl
    · simp only [List.cons_append, List.append_assoc, List.nil_append]
      show run (.value (.object [] (some k) :: frames)) _ = _
      rw [hv.read, hrest.read]
      rfl

/-! ## Values -/

theorem Plain.exists_spelled {v : Json} {depth : Nat} (h : v.Plain depth) : ∃ cs us, Spelled v cs us := by
  induction h with
  | null =>
    refine ⟨"null".toList, [.scalar .null], ⟨fun out => ?_, fun _ hlex => ?_, fun _ _ => rfl,
      fun _ _ => rfl⟩⟩
    · rw [write, String.toList_append]
    · exact hlex.word rfl (by decide)
  | bool b =>
    refine ⟨(toString b).toList, [.scalar (.bool b)], ⟨fun out => ?_, fun _ hlex => ?_,
      fun _ _ => rfl, fun _ _ => rfl⟩⟩
    · rw [write, String.toList_append]
    · cases b with
      | false => exact hlex.word rfl (by decide)
      | true => exact hlex.word rfl (by decide)
  | @natural _ n _ =>
    refine ⟨(toString n).toList, [.scalar (ofNat n)], ⟨fun out => ?_, fun hstops hlex => ?_,
      fun _ _ => rfl, fun _ _ => rfl⟩⟩
    · rw [ofNat, write, String.toList_append]
      rfl
    · refine hlex.word (Token.next_natural n hstops) ?_
      rw [Nat.toString_eq_ofList_toDigits, String.toList_ofList]
      exact Nat.length_toDigits_pos
  | text s =>
    refine ⟨(quote s).toList, [.string (some s)], ⟨fun out => ?_, fun _ hlex => hlex.quote s,
      fun _ _ => rfl, fun _ _ => rfl⟩⟩
    rw [ofText, write, String.toList_append]
    rfl
  | array _ ih => exact exists_spelled_array ih
  | record _ _ ih => exact exists_spelled_record ih

/-- A plain value is read back from what is written of it, however deep it nests. -/
theorem read?_render {v : Json} {depth : Nat} (h : v.Plain depth) :
    read? (render v) = some v := by
  obtain ⟨cs, us, hv⟩ := h.exists_spelled
  have htext : (render v).toList = cs := hv.written ""
  have hlex := hv.lexes Token.stops_nil Lexes.nil [] cs.length (by simp)
  have hread := hv.read [] []
  rw [List.append_nil] at hlex hread
  unfold read? Token.ofText
  dsimp only
  rw [htext, hlex, Option.bind_some, List.reverse_nil, List.nil_append, List.append_nil, hread]
  rfl

/-! ## Records -/

theorem valuesOf_cons (key k : String) (v : Json) (rest : List (Option String × Json)) :
    valuesOf key ((some k, v) :: rest) =
      if k = key then v :: valuesOf key rest else valuesOf key rest := by
  unfold valuesOf
  rw [List.filter_cons]
  by_cases h : k = key <;> simp [h]

/-- The only value under a key is the one that a look-up finds. -/
theorem valuesOf_record {members : List (String × Json)} (hkeys : (members.map (·.1)).Nodup)
    (key : String) :
    valuesOf key (members.map fun (k, v) => (some k, v)) = (members.lookup key).toList := by
  induction members with
  | nil => rfl
  | cons m members ih =>
    obtain ⟨k, v⟩ := m
    obtain ⟨hk, hrest⟩ := List.nodup_cons.1 hkeys
    rw [List.map_cons, valuesOf_cons, ih hrest, List.lookup_cons]
    by_cases h : k = key
    · subst h
      have hnone : members.lookup k = none := by
        rw [List.lookup_eq_none_iff]
        intro m hm
        have hne : k ≠ m.1 := fun e => hk (List.mem_map.2 ⟨m, hm, e.symm⟩)
        simpa using hne
      simp [hnone]
    · have hne : (key == k) = false := beq_eq_false_iff_ne.2 (Ne.symm h)
      simp [h, hne]

theorem mapM_eq_some {α β : Type} {f : α → Option β} {g : α → β} {l : List α}
    (h : ∀ a ∈ l, f a = some (g a)) : l.mapM f = some (l.map g) := by
  induction l with
  | nil => rfl
  | cons a l ih =>
    obtain ⟨ha, hl⟩ := List.forall_mem_cons.1 h
    rw [List.mapM_cons, ha, ih hl]
    rfl

theorem fields?_record (keys : List String) {members : List (String × Json)}
    (hkeys : (members.map (·.1)).Nodup) :
    fields? keys (record members) = some (keys.map fun key => members.lookup key) := by
  have hnames : (members.map fun (k, v) => ((some k, v) : Option String × Json)).any
      (·.1.isNone) = false := by
    rw [List.any_map]
    exact List.any_eq_false.2 fun m _ => Bool.false_ne_true
  unfold record fields?
  dsimp only
  rw [hnames, if_neg Bool.false_ne_true]
  refine mapM_eq_some fun key _ => ?_
  rw [valuesOf_record hkeys]
  cases members.lookup key <;> rfl

/-- **The library that comes along is faithful.** It reads back what it writes of a plain value, and
takes each part of a value for what it is. -/
theorem Library.faithful_standard : Library.standard.Faithful where
  read_write h := read?_render h
  flag_bool _ := rfl
  natural_ofNat h _ := if_pos h
  text_ofText _ := rfl
  items_array _ := rfl
  present_null := rfl
  present_of_ne_null {v} h := by
    cases v with
    | null => exact absurd rfl h
    | _ => rfl
  variant_ofText _ := rfl
  fields_record {keys} {members} hnodup hkeys := fields?_record keys (hnodup.sublist hkeys)

end Json

end VirtualUsb
