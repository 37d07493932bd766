/-!
# Written durations

A duration is written in the largest unit of which it holds at least one whole, with the decimals
it needs and none more: `0ns`, `250µs`, `1.5ms`, `90s`.
-/

namespace VirtualUsb.Duration

/-- The decimals of `part / 10 ^ digits`, without trailing zeros. -/
def decimals (digits part : Nat) : String :=
  let written := (Nat.toDigits 10 (Nat.pow 10 digits + part)).drop 1
  let kept := (written.reverse.dropWhile (· == '0')).reverse
  if kept.isEmpty then "" else "." ++ String.ofList kept

/-- An amount of `scale`-microsecond units, where `scale` is `10 ^ digits`. -/
def inUnit (micros digits : Nat) (unit : String) : String :=
  toString (micros / Nat.pow 10 digits) ++ decimals digits (micros % Nat.pow 10 digits) ++ unit

def render (micros : Nat) : String :=
  if 1000000 ≤ micros then inUnit micros 6 "s"
  else if 1000 ≤ micros then inUnit micros 3 "ms"
  else if 1 ≤ micros then inUnit micros 0 "µs"
  else "0ns"

end VirtualUsb.Duration
