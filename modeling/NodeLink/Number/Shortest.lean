import NodeLink.Number.Binary64
/-!
# Shortest decimals

The decimal with the fewest digits that rounds to a given magnitude; of two
with equally many digits the nearer one, and of two equally near the even one.
The reals that round to a magnitude form an interval around it, which holds
its ends exactly if the mantissa is even.
-/

namespace NodeLink.Number

structure Decimal where
  digits : Nat
  exponent : Int
  deriving DecidableEq, Repr

namespace Shortest

structure Interval where
  low : Nat
  value : Nat
  high : Nat
  den : Nat
  closed : Bool

/-- Half the gap to the next smaller magnitude is a quarter of a unit at a
power of two, and half a unit elsewhere; half the gap to the next larger one is
half a unit everywhere. -/
def Interval.around (x : Binary64) : Interval :=
  let below := if x.mantissa = Nat.pow 2 52 ∧ Binary64.leastExponent < x.exponent then 1 else 2
  let unit := if 0 ≤ x.exponent then Nat.pow 2 x.exponent.toNat else 1
  let den := if 0 ≤ x.exponent then 4 else 4 * Nat.pow 2 (-x.exponent).toNat
  { low := (4 * x.mantissa - below) * unit
    value := 4 * x.mantissa * unit
    high := (4 * x.mantissa + 2) * unit
    den := den
    closed := x.mantissa % 2 == 0 }

def Interval.holds (i : Interval) (num den : Nat) : Bool :=
  let scaled := num * i.den
  if i.closed then i.low * den ≤ scaled && scaled ≤ i.high * den
  else i.low * den < scaled && scaled < i.high * den

def tenPower (k : Int) : Nat × Nat :=
  if 0 ≤ k then (Nat.pow 10 k.toNat, 1) else (1, Nat.pow 10 (-k).toNat)

def leadingExponent (num den : Nat) : Int :=
  if den ≤ num then ((Nat.toDigits 10 (num / den)).length : Int) - 1
  else
    let places := (Nat.toDigits 10 (den / num)).length
    if den ≤ num * Nat.pow 10 (places - 1) then 1 - (places : Int) else -(places : Int)

/-- The best decimal on the grid of multiples of `10 ^ k`, if one of the two
neighbours of the value there lies in the interval. -/
def onGrid (i : Interval) (k : Int) : Option Decimal :=
  let (tenNum, tenDen) := tenPower k
  let num := i.value * tenDen
  let den := i.den * tenNum
  let floor := num / den
  let rest := 2 * (num % den)
  let lower := i.holds (floor * tenNum) tenDen
  let upper := i.holds ((floor + 1) * tenNum) tenDen
  let lowerIsNearer := rest < den || (rest == den && floor % 2 == 0)
  if lower && (lowerIsNearer || !upper) then some ⟨floor, k⟩
  else if upper then some ⟨floor + 1, k⟩
  else none

def normalized (digits : List Char) (exponent : Int) : List Char × Int :=
  let kept := (digits.reverse.dropWhile (· = '0')).reverse
  (kept, exponent + (digits.length - kept.length : Nat))

end Shortest

/-- The significant digits of the shortest decimal of a positive magnitude, and
the exponent of the first of them. -/
def shortestDigits (x : Binary64) : List Char × Int :=
  let i := Shortest.Interval.around x
  let lead := Shortest.leadingExponent i.value i.den
  let found := (List.range 17).findSome? fun (count : Nat) =>
    Shortest.onGrid i (lead - count)
  let best := found.getD ⟨i.value / i.den, 0⟩
  let (digits, exponent) := Shortest.normalized (Nat.toDigits 10 best.digits) best.exponent
  (digits, exponent + digits.length - 1)

end NodeLink.Number
