/-!
# Binary numbers of double precision

The magnitudes `mantissa * 2 ^ exponent` with at most 53 binary digits and an
exponent of at least -1074.  A quotient of two naturals is rounded to the
nearest of them, a tie to the even mantissa; products and quotients of
magnitudes are rounded the same way.  All of it is arithmetic on naturals.
-/

namespace NodeLink.Number

structure Binary64 where
  mantissa : Nat
  exponent : Int
  deriving DecidableEq, Repr

namespace Binary64

def leastExponent : Int := -1074

def greatestExponent : Int := 971

def zero : Binary64 := ⟨0, leastExponent⟩

def isZero (x : Binary64) : Bool := x.mantissa == 0

def scaled (num den : Nat) (e : Int) : Nat × Nat :=
  if 0 ≤ e then (num, den * Nat.pow 2 e.toNat) else (num * Nat.pow 2 (-e).toNat, den)

def roundQuotient (num den : Nat) : Nat :=
  let floor := num / den
  let rest := 2 * (num % den)
  if rest < den then floor
  else if den < rest then floor + 1
  else if floor % 2 = 0 then floor
  else floor + 1

/-- The exponent at which a quotient has exactly 53 binary digits before the
point, or the least exponent where that is larger. -/
def exponentFor (num den : Nat) : Int :=
  let guess : Int := (num.log2 : Int) - den.log2 - 52
  let (n, d) := scaled num den guess
  let fitted := if n / d < Nat.pow 2 52 then guess - 1 else guess
  max fitted leastExponent

def ofQuotient (num den : Nat) : Option Binary64 :=
  if num = 0 then some zero
  else
    let e := exponentFor num den
    let (n, d) := scaled num den e
    let m := roundQuotient n d
    let rounded : Binary64 := if m = Nat.pow 2 53 then ⟨Nat.pow 2 52, e + 1⟩ else ⟨m, e⟩
    if greatestExponent < rounded.exponent then none else some rounded

def ofNat (n : Nat) : Option Binary64 :=
  ofQuotient n 1

def toQuotient (x : Binary64) : Nat × Nat :=
  if 0 ≤ x.exponent then (x.mantissa * Nat.pow 2 x.exponent.toNat, 1)
  else (x.mantissa, Nat.pow 2 (-x.exponent).toNat)

def mul (x y : Binary64) : Option Binary64 :=
  let (n, d) := x.toQuotient
  let (k, l) := y.toQuotient
  ofQuotient (n * k) (d * l)

def div (x y : Binary64) : Option Binary64 :=
  let (n, d) := x.toQuotient
  let (k, l) := y.toQuotient
  ofQuotient (n * l) (d * k)

def tenTo (k : Nat) : Option Binary64 :=
  ofQuotient (Nat.pow 10 k) 1

def greatestTen : Nat := 308

/-- Divides by powers of ten until `k` of them are taken, at most 308 at a
time, rounding after each division.  After 2 full divisions nothing is left of
any 64-bit number, so `fuel` bounds the number of them. -/
def divideByTens : Nat → Binary64 → Nat → Option Binary64
  | 0, _, _ => some zero
  | fuel + 1, x, k =>
    if k ≤ greatestTen then do x.div (← tenTo k)
    else if x.isZero then some x
    else do divideByTens fuel (← x.div (← tenTo greatestTen)) (k - greatestTen)

/-- A 64-bit significand times a power of ten, rounded after each step. -/
def ofDecimal (significand : Nat) (exponent : Int) : Option Binary64 := do
  let x ← ofNat significand
  if 0 ≤ exponent then
    if exponent ≤ greatestTen then x.mul (← tenTo exponent.toNat)
    else if x.isZero then return x
    else none
  else divideByTens 4 x (-exponent).toNat

end Binary64

end NodeLink.Number
