import VirtualUsb.Proofs.Device.Edits

/-!
# Strings of emulated devices

A device answers the strings that it holds by their numbers, each with as much of the text as a
descriptor has room for (`Emulated.text_of_index`). The index that comes with a new string is its
number in one byte, so it is good for the first 255 strings, from then on and whatever becomes of
the device. After these it comes round to numbers that are taken
(`Emulated.index_of_addString`).
-/

namespace VirtualUsb.Emulated

variable {σ : Type}

/-! ## Texts -/

/-- **String descriptors hold their texts.** A device answers the index of a string with a length
byte, the kind and the UTF-16 units of the text, the low byte of each first, up to 126 of them. The
length is even, at most 254 and that of the whole descriptor, and what is behind the header is a
whole number of units from the start of the text. They can be read as the text just if it has no
other units. -/
theorem text_of_index {d : Emulated σ} {index : UInt8} {text : String} (hindex : index ≠ 0)
    (htext : d.strings[index.toNat - 1]? = some text) :
    ∃ length payload, d.Answers 0x03 index (length :: 0x03 :: payload) ∧
      StringDescriptor.Encodes text length payload := by
  have hanswers : d.Answers DescriptorKind.string index (StringDescriptor.ofText text) :=
    Edits.answers_string .refl hindex htext
  obtain ⟨length, payload, heq, hencodes⟩ := StringDescriptor.encodes_ofText text
  rw [heq] at hanswers
  exact ⟨length, payload, hanswers, hencodes⟩

/-- A text of 125 letters and one more character, which takes two units. -/
def longText : List Char := List.replicate 125 'a' ++ ['😀']

/-- The cut goes through the pair of the last character, so the text is not read back. The other
string of the device is. -/
theorem text_of_longText :
    let d : Emulated Unit := ((ofDescriptor {} default).addString "é😀").addString
      (String.ofList longText)
    (∃ payload, d.Answers 0x03 1 (8 :: 0x03 :: payload) ∧
      (Bytes.words payload).bind Utf16.decode = some ['é', '😀']) ∧
    ∃ payload, d.Answers 0x03 2 (254 :: 0x03 :: payload) ∧
      (Bytes.words payload).bind Utf16.decode ≠ some longText := by
  intro d
  have hshort : (Utf16.encode "é😀".toList).length = 3 := by decide
  have hlong : (Utf16.encode longText).length = 127 := by decide +kernel
  have htext : (String.ofList longText).toList = longText := String.toList_ofList
  have hfirst : d.strings[(1 : UInt8).toNat - 1]? = some "é😀" := rfl
  have hsecond : d.strings[(2 : UInt8).toNat - 1]? = some (String.ofList longText) := rfl
  constructor
  · obtain ⟨length, payload, hanswers, hencodes⟩ := text_of_index (by decide) hfirst
    have hlength := hencodes.length_eq
    rw [hshort] at hlength
    obtain rfl : length = 8 := UInt8.toNat_inj.1 hlength
    exact ⟨payload, hanswers, hencodes.readBack.2 (by rw [hshort]; decide)⟩
  · obtain ⟨length, payload, hanswers, hencodes⟩ := text_of_index (by decide) hsecond
    have hlength := hencodes.length_eq
    rw [htext, hlong] at hlength
    obtain rfl : length = 254 := UInt8.toNat_inj.1 hlength
    refine ⟨payload, hanswers, fun h => ?_⟩
    have hle := hencodes.readBack.1 (htext.symm ▸ h)
    rw [htext, hlong] at hle
    exact absurd hle (by decide)

/-! ## Indices -/

theorem lastStringIndex_addString (d : Emulated σ) (text : String) :
    (d.addString text).lastStringIndex.toNat = (d.strings.length + 1) % 256 := by
  have hlength : (d.addString text).strings.length = d.strings.length + 1 := List.length_append
  unfold lastStringIndex
  rw [hlength]
  exact UInt8.toNat_ofNat'

theorem answers_languages (d : Emulated σ) :
    d.Answers DescriptorKind.string 0 StringDescriptor.languages :=
  d.answers_descriptorAnswer DescriptorKind.string 0

/-- What the index given to a text, which came after some other strings, is good for later. -/
structure Indexed (before : List String) (text : String) (index : UInt8) (later : Emulated σ) :
    Prop where
  number : index.toNat = (before.length + 1) % 256
  kept : before.length < 255 → index ≠ 0 ∧
    later.Answers DescriptorKind.string index (StringDescriptor.ofText text)
  /-- Past the last number that fits, index zero is given, which is for the languages. -/
  languages : 255 ≤ before.length → index = 0 →
    later.Answers DescriptorKind.string index StringDescriptor.languages
  /-- Then the indices are given once more that the first strings have. -/
  taken : 255 ≤ before.length → index ≠ 0 → ∃ first, before[index.toNat - 1]? = some first ∧
    later.Answers DescriptorKind.string index (StringDescriptor.ofText first)
  /-- A later string is given the same index just if a multiple of 256 strings lie between. -/
  again : ∀ other, (later.addString other).lastStringIndex = index ↔
    later.strings.length % 256 = before.length % 256

/-- **Strings are named by their indices up to the 255th.** The index given to one of the first 255
strings is not zero, and at every later point the device answers it with this string. The next
string is given index zero, which the device answers with the languages; and those behind it are
given the indices of the first strings, which it answers with these. -/
theorem index_of_addString (d : Emulated σ) (text : String) {later : Emulated σ}
    (h : (d.addString text).Edits later) :
    Indexed d.strings text (d.addString text).lastStringIndex later := by
  have hnumber := d.lastStringIndex_addString text
  generalize (d.addString text).lastStringIndex = index at hnumber
  have hzero : index = 0 ↔ index.toNat = 0 := UInt8.toNat_inj.symm
  refine ⟨hnumber, fun hfew => ?_, fun _ hindex => ?_, fun hmany hindex => ?_, fun other => ?_⟩
  · have hindex : index ≠ 0 := by
      rw [Ne, hzero]
      omega
    refine ⟨hindex, h.answers_string hindex ?_⟩
    show (d.strings ++ [text])[index.toNat - 1]? = some text
    have hplace : index.toNat - 1 = d.strings.length := by omega
    rw [hplace]
    exact List.getElem?_concat_length
  · rw [hindex]
    exact later.answers_languages
  · rw [Ne, hzero] at hindex
    have hlt : index.toNat - 1 < d.strings.length := by
      have := index.toNat_lt
      omega
    refine ⟨d.strings[index.toNat - 1], List.getElem?_eq_getElem hlt, ?_⟩
    refine h.answers_string (mt hzero.1 hindex) ?_
    show (d.strings ++ [text])[index.toNat - 1]? = _
    rw [List.getElem?_append_left hlt]
    exact List.getElem?_eq_getElem hlt
  · have hother := later.lastStringIndex_addString other
    rw [← UInt8.toNat_inj, hother, hnumber]
    omega

/-- A new device to which a number of equal strings were added one after another. -/
def ofCopies (n : Nat) (text : String) : Emulated Unit :=
  (List.replicate n text).foldl addString (ofDescriptor {} default)

theorem strings_foldl_addString (d : Emulated σ) (texts : List String) :
    (texts.foldl addString d).strings = d.strings ++ texts := by
  induction texts generalizing d with
  | nil => exact (List.append_nil _).symm
  | cons text texts ih =>
    rw [List.foldl_cons, ih, addString, List.append_assoc, List.singleton_append]

theorem strings_ofCopies (n : Nat) (text : String) :
    (ofCopies n text).strings = List.replicate n text := strings_foldl_addString _ _

theorem lastStringIndex_ofCopies (n : Nat) (text other : String) :
    ((ofCopies n text).addString other).lastStringIndex.toNat = (n + 1) % 256 := by
  rw [lastStringIndex_addString, strings_ofCopies, List.length_replicate]

/-- The last index that fits is good for its string, even after the indices have come round. -/
theorem index_of_last : ((ofCopies 254 "a").addString "b").lastStringIndex = 255 ∧
    ((((ofCopies 254 "a").addString "b").addString "c").addString "d").Answers 0x03 255
      [4, 3, 98, 0] := by
  have hlater : ((ofCopies 254 "a").addString "b").Edits
      ((((ofCopies 254 "a").addString "b").addString "c").addString "d") :=
    (Relation.ReflTransGen.single (.string _ "c")).tail (.string _ "d")
  have hfew : (ofCopies 254 "a").strings.length < 255 := by
    rw [strings_ofCopies, List.length_replicate]
    decide
  have hindex : ((ofCopies 254 "a").addString "b").lastStringIndex = 255 :=
    UInt8.toNat_inj.1 (lastStringIndex_ofCopies 254 "a" "b")
  obtain ⟨-, hanswers⟩ := (index_of_addString (ofCopies 254 "a") "b" hlater).kept hfew
  rw [hindex] at hanswers
  exact ⟨hindex, hanswers⟩

/-- The string behind that is given index zero, and the next one the index of the first string,
which the device answers with the first string. -/
theorem index_of_round :
    ((ofCopies 255 "a").addString "b").lastStringIndex = 0 ∧
      ((ofCopies 256 "a").addString "b").lastStringIndex = 1 ∧
      ((ofCopies 256 "a").addString "b").serveStandard [0, 0, 0, 0] (.getDescriptor 0x03 1) =
        ⟨some 4, [4, 3, 97, 0], (ofCopies 256 "a").addString "b"⟩ ∧
      StringDescriptor.ofText "b" = [4, 3, 98, 0] := by
  have hfirst : (ofCopies 256 "a").strings[(1 : UInt8).toNat - 1]? = some "a" := by
    rw [strings_ofCopies]
    rfl
  have hanswers : ((ofCopies 256 "a").addString "b").Answers 0x03 1 (StringDescriptor.ofText "a") :=
    Edits.answers_string (.single (.string _ "b")) (by decide) hfirst
  refine ⟨UInt8.toNat_inj.1 (lastStringIndex_ofCopies 255 "a" "b"),
    UInt8.toNat_inj.1 (lastStringIndex_ofCopies 256 "a" "b"), ?_, rfl⟩
  exact hanswers [0, 0, 0, 0]

end VirtualUsb.Emulated
