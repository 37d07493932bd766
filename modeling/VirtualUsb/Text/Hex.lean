import VirtualUsb.Bytes

/-!
# Hexadecimal text

Bytes as pairs of hexadecimal digits, high digit first. Both cases are read and lower case is
written.
-/

namespace VirtualUsb.Hex

/-- The value of a hexadecimal digit. -/
def value? (c : Char) : Option Nat :=
  if '0' ≤ c ∧ c ≤ '9' then some (c.toNat - '0'.toNat)
  else if 'a' ≤ c ∧ c ≤ 'f' then some (c.toNat - 'a'.toNat + 10)
  else if 'A' ≤ c ∧ c ≤ 'F' then some (c.toNat - 'A'.toNat + 10)
  else none

/-- The last `width` digits of a number, padded with zeros. -/
def padded (width n : Nat) : String :=
  String.ofList ((Nat.toDigits 16 (Nat.pow 16 width + n % Nat.pow 16 width)).drop 1)

def ofBytes (data : Bytes) : String :=
  data.foldl (fun out b => out ++ padded 2 b.toNat) ""

/-- The bytes of pairs of digits. -/
def bytesOfChars? : List Char → Option Bytes
  | [] => some []
  | a :: b :: rest => do
    return UInt8.ofNat ((← value? a) * 16 + (← value? b)) :: (← bytesOfChars? rest)
  | [_] => none

/-- The bytes of a text of digits. -/
def bytes? (s : String) : Option Bytes := bytesOfChars? s.toList

end VirtualUsb.Hex
