/-!
# Durations

Lengths of time in nanoseconds, and their text: the largest unit that gives a
whole part, with as many decimals as are needed and no trailing zeros.
-/

namespace NodeLink

structure Duration where
  nanos : Nat
  deriving DecidableEq, Repr

namespace Duration

def ofSecs (n : Nat) : Duration := ⟨n * 1000000000⟩

def ofMillis (n : Nat) : Duration := ⟨n * 1000000⟩

def isZero (d : Duration) : Bool := d.nanos == 0

def decimals (n places : Nat) : List Char :=
  let digits := Nat.toDigits 10 n
  let full := List.replicate (places - digits.length) '0' ++ digits
  (full.reverse.dropWhile (· = '0')).reverse

def inUnits (nanos places : Nat) (unit : String) : String :=
  let whole := toString (nanos / Nat.pow 10 places)
  match decimals (nanos % Nat.pow 10 places) places with
  | [] => whole ++ unit
  | fraction => whole ++ "." ++ String.ofList fraction ++ unit

def text (d : Duration) : String :=
  if Nat.pow 10 9 ≤ d.nanos then inUnits d.nanos 9 "s"
  else if Nat.pow 10 6 ≤ d.nanos then inUnits d.nanos 6 "ms"
  else if Nat.pow 10 3 ≤ d.nanos then inUnits d.nanos 3 "µs"
  else inUnits d.nanos 0 "ns"

end Duration

end NodeLink
