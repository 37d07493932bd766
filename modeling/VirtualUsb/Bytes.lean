/-!
# Byte strings

Byte strings are lists of bytes. A 16-bit word is two bytes, the low one first (`Bytes.ofWord`,
`Bytes.word`). `Bytes.overlay` is what a callee leaves in a buffer it was lent.
-/

namespace VirtualUsb

/-- A byte string. -/
abbrev Bytes := List UInt8

namespace Bytes

/-! ## Words -/

def low (w : UInt16) : UInt8 := UInt8.ofNat (w.toNat % 256)

def high (w : UInt16) : UInt8 := UInt8.ofNat (w.toNat / 256)

def word (lo hi : UInt8) : UInt16 := UInt16.ofNat (lo.toNat + 256 * hi.toNat)

/-- A word as two bytes, the low one first. -/
def ofWord (w : UInt16) : Bytes := [low w, high w]

theorem toNat_low (w : UInt16) : (low w).toNat = w.toNat % 256 := by
  simp only [low, UInt8.toNat_ofNat']
  omega

theorem toNat_high (w : UInt16) : (high w).toNat = w.toNat / 256 := by
  have := w.toNat_lt
  simp only [high, UInt8.toNat_ofNat']
  omega

theorem toNat_word (lo hi : UInt8) : (word lo hi).toNat = lo.toNat + 256 * hi.toNat := by
  have := lo.toNat_lt
  have := hi.toNat_lt
  simp only [word, UInt16.toNat_ofNat']
  omega

@[simp] theorem word_low_high (w : UInt16) : word (low w) (high w) = w := by
  apply UInt16.toNat_inj.1
  rw [toNat_word, toNat_low, toNat_high]
  omega

@[simp] theorem low_word (lo hi : UInt8) : low (word lo hi) = lo := by
  have := lo.toNat_lt
  apply UInt8.toNat_inj.1
  rw [toNat_low, toNat_word]
  omega

@[simp] theorem high_word (lo hi : UInt8) : high (word lo hi) = hi := by
  have := lo.toNat_lt
  apply UInt8.toNat_inj.1
  rw [toNat_high, toNat_word]
  omega

@[simp] theorem length_ofWord (w : UInt16) : (ofWord w).length = 2 := rfl

/-! ## Lent buffers -/

/-- The buffer after `answer` was written at its start: what does not fit is dropped, and bytes
past the answer stay as they were. -/
def overlay (buffer answer : Bytes) : Bytes :=
  answer.take buffer.length ++ buffer.drop answer.length

@[simp] theorem length_overlay (buffer answer : Bytes) :
    (overlay buffer answer).length = buffer.length := by
  simp only [overlay, List.length_append, List.length_take, List.length_drop]
  omega

theorem getElem?_overlay {buffer answer : Bytes} {i : Nat} (h : i < buffer.length) :
    (overlay buffer answer)[i]? = (answer[i]?).or buffer[i]? := by
  unfold overlay
  by_cases ha : i < answer.length
  · rw [List.getElem?_append_left (by rw [List.length_take]; omega), List.getElem?_take_of_lt h,
      List.getElem?_eq_getElem ha, Option.some_or]
  · have hnone : answer[i]? = none := List.getElem?_eq_none (by omega)
    have hplace : answer.length + (i - min buffer.length answer.length) = i := by omega
    rw [List.getElem?_append_right (by rw [List.length_take]; omega), List.length_take,
      List.getElem?_drop, hplace, hnone, Option.none_or]

end Bytes

end VirtualUsb
