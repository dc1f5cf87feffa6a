/-!
# Decimal numerals

Unsigned numbers within a bound, written with an optional plus sign and any
number of leading zeros.
-/

namespace NodeLink.Text.Numeral

def digitValue? (c : Char) : Option Nat :=
  if '0' ≤ c ∧ c ≤ '9' then some (c.toNat - '0'.toNat) else none

def isDigit (c : Char) : Bool :=
  (digitValue? c).isSome

def value? (digits : List Char) : Option Nat :=
  digits.foldlM (fun total c => (digitValue? c).map (total * 10 + ·)) 0

def digitsWithin? (bound : Nat) (digits : List Char) : Option Nat :=
  match digits with
  | [] => none
  | _ => (value? digits).filter (· ≤ bound)

def within? (bound : Nat) (text : List Char) : Option Nat :=
  match text with
  | '+' :: digits => digitsWithin? bound digits
  | digits => digitsWithin? bound digits

def ofNat (n : Nat) : List Char :=
  Nat.toDigits 10 n

def maxWord16 : Nat := Nat.pow 2 16 - 1

def maxWord64 : Nat := Nat.pow 2 64 - 1

end NodeLink.Text.Numeral
