import Mathlib.Data.List.TakeDrop
import VirtualUsb.Proofs.Json.Words
import VirtualUsb.Wire.StringDescriptor

/-!
# Text on the wire

A string descriptor holds the UTF-16 units of a text, the low byte of each first. Bytes are read
back as the units that they were written for (`Bytes.words_ofWords`), and units can be read as a
text just if they are those of this text (`Utf16.decode_eq_some_iff`). So a text can be read from
its descriptor just if none of its units was cut off (`StringDescriptor.encodes_ofText`).
-/

namespace VirtualUsb

/-! ## Units -/

namespace Utf16

theorem toNat_ofNat_char {n : Nat} (h : n < 0xD800 ∨ 0xDFFF < n ∧ n < 0x110000) :
    (Char.ofNat n).toNat = n := by
  rw [Char.ofNat, dif_pos h]
  rfl

theorem units_single {u : UInt16} (hhigh : isHigh u = false) (hlow : isLow u = false) :
    units (Char.ofNat u.toNat) = [u] := by
  have hu := u.toNat_lt
  rw [Bool.eq_false_iff, Ne, isHigh_iff] at hhigh
  rw [Bool.eq_false_iff, Ne, isLow_iff] at hlow
  have hchar : (Char.ofNat u.toNat).toNat = u.toNat := toNat_ofNat_char (by omega)
  unfold units
  rw [hchar, if_pos hu, UInt16.ofNat_toNat]

theorem units_pair {u v : UInt16} (hhigh : isHigh u = true) (hlow : isLow v = true) :
    units (pair u v) = [u, v] := by
  rw [isHigh_iff] at hhigh
  rw [isLow_iff] at hlow
  have hchar : (pair u v).toNat =
      0x10000 + (u.toNat - 0xD800) * 0x400 + (v.toNat - 0xDC00) :=
    toNat_ofNat_char (by omega)
  have hhi : 0xD800 + ((pair u v).toNat - 0x10000) / 0x400 = u.toNat := by omega
  have hlo : 0xDC00 + ((pair u v).toNat - 0x10000) % 0x400 = v.toNat := by omega
  unfold units
  rw [if_neg (by omega), hhi, hlo, UInt16.ofNat_toNat, UInt16.ofNat_toNat]

theorem encode_cons (c : Char) (text : List Char) : encode (c :: text) = units c ++ encode text :=
  List.flatMap_cons

theorem eq_encode_of_decode {us : List UInt16} {text : List Char} (h : decode us = some text) :
    us = encode text := by
  fun_induction decode us generalizing text with
  | case1 =>
    obtain rfl := Option.some.inj h
    rfl
  | case2 u hhigh v rest hlow ih =>
    obtain ⟨text, htext, rfl⟩ := Option.map_eq_some_iff.1 h
    rw [encode_cons, units_pair hhigh hlow, ← ih htext]
    rfl
  | case3 | case4 | case5 => exact nomatch h
  | case6 u rest hhigh hlow ih =>
    obtain ⟨text, htext, rfl⟩ := Option.map_eq_some_iff.1 h
    have hunits := units_single (Bool.eq_false_iff.2 hhigh) (Bool.eq_false_iff.2 hlow)
    rw [encode_cons, hunits, ← ih htext]
    rfl

/-- Each text has only one spelling in units. -/
theorem decode_eq_some_iff {us : List UInt16} {text : List Char} :
    decode us = some text ↔ us = encode text := by
  constructor
  · exact eq_encode_of_decode
  · rintro rfl
    exact decode_encode text

end Utf16

/-! ## Bytes -/

namespace Bytes

/-- Words on the wire, the low byte of each first. -/
def ofWords (us : List UInt16) : Bytes := us.flatMap ofWord

/-- The words in some bytes. An odd number of bytes holds none. -/
def words : Bytes → Option (List UInt16)
  | [] => some []
  | [_] => none
  | lo :: hi :: rest => (words rest).map (word lo hi :: ·)

theorem ofWords_cons (u : UInt16) (us : List UInt16) :
    ofWords (u :: us) = low u :: high u :: ofWords us := rfl

theorem words_ofWords (us : List UInt16) : words (ofWords us) = some us := by
  induction us with
  | nil => rfl
  | cons u us ih => rw [ofWords_cons, words, ih, Option.map_some, word_low_high]

theorem length_ofWords (us : List UInt16) : (ofWords us).length = 2 * us.length := by
  induction us with
  | nil => rfl
  | cons u us ih =>
    rw [ofWords_cons, List.length_cons, List.length_cons, List.length_cons, ih]
    omega

theorem ofWords_append (us vs : List UInt16) : ofWords (us ++ vs) = ofWords us ++ ofWords vs :=
  List.flatMap_append

theorem ofWords_take_prefix (us : List UInt16) (n : Nat) : ofWords (us.take n) <+: ofWords us := by
  refine ⟨ofWords (us.drop n), ?_⟩
  rw [← ofWords_append, List.take_append_drop]

end Bytes

/-! ## Descriptors -/

namespace StringDescriptor

open Bytes (ofWords words)

/-- Whether a length byte and a payload make up the descriptor of a text. -/
structure Encodes (text : String) (length : UInt8) (payload : Bytes) : Prop where
  payload_eq : payload = ofWords ((Utf16.encode text.toList).take 126)
  length_eq : length.toNat = 2 + 2 * min 126 (Utf16.encode text.toList).length
  even : length.toNat % 2 = 0
  length_le : length.toNat ≤ 254
  /-- The length byte counts the two bytes of the header as well. -/
  whole : length.toNat = (length :: DescriptorKind.string :: payload).length
  units : words payload = some ((Utf16.encode text.toList).take 126)
  start : payload <+: ofWords (Utf16.encode text.toList)
  readBack : (words payload).bind Utf16.decode = some text.toList ↔
    (Utf16.encode text.toList).length ≤ 126

/-- The first units of a text are those of the whole text just if it has no others. -/
theorem decode_take_encode (text : List Char) (n : Nat) :
    Utf16.decode ((Utf16.encode text).take n) = some text ↔ (Utf16.encode text).length ≤ n := by
  rw [Utf16.decode_eq_some_iff, List.take_eq_self_iff]

theorem length_take_encode (text : List Char) :
    ((Utf16.encode text).take 126).length = min 126 (Utf16.encode text).length :=
  List.length_take

theorem ofText_eq_cons (text : String) : ofText text =
    UInt8.ofNat (2 + 2 * min 126 (Utf16.encode text.toList).length) :: DescriptorKind.string ::
      ofWords ((Utf16.encode text.toList).take 126) := by
  unfold ofText ofUnits maxUnits
  rw [length_take_encode]
  rfl

/-- The descriptor of a text holds as many of its units as there is room for. -/
theorem encodes_ofText (text : String) :
    ∃ length payload, ofText text = length :: DescriptorKind.string :: payload ∧
      Encodes text length payload := by
  refine ⟨_, _, ofText_eq_cons text, ?_⟩
  have hlength : (UInt8.ofNat (2 + 2 * min 126 (Utf16.encode text.toList).length)).toNat =
      2 + 2 * min 126 (Utf16.encode text.toList).length :=
    UInt8.toNat_ofNat_of_lt' (by rw [UInt8.size]; omega)
  have hpayload := Bytes.length_ofWords ((Utf16.encode text.toList).take 126)
  rw [length_take_encode] at hpayload
  refine ⟨rfl, hlength, by omega, by omega, ?_, Bytes.words_ofWords _,
    Bytes.ofWords_take_prefix _ _, ?_⟩
  · rw [hlength, List.length_cons, List.length_cons, hpayload]
    omega
  · rw [Bytes.words_ofWords, Option.bind_some]
    exact decode_take_encode text.toList 126

end StringDescriptor

end VirtualUsb
