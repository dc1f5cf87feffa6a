import NodeLink.Text.Numeral
/-!
# IPv4 addresses

Four decimal parts without leading zeros, each below 256.  The reader takes an
address from the front of a text and returns what follows it, as a part of a
larger notation needs it.
-/

namespace NodeLink.Address

open NodeLink.Text

structure Ipv4 where
  a : UInt8
  b : UInt8
  c : UInt8
  d : UInt8
  deriving DecidableEq, Repr

def expect (c : Char) : List Char → Option (List Char)
  | [] => none
  | first :: rest => if first = c then some rest else none

def readNumber (bound : Nat) (text : List Char) : Option (Nat × List Char) :=
  (Numeral.digitsWithin? bound (text.takeWhile Numeral.isDigit)).map fun n =>
    (n, text.dropWhile Numeral.isDigit)

namespace Ipv4

def octetText (octet : UInt8) : List Char := Numeral.ofNat octet.toNat

def render (ip : Ipv4) : List Char :=
  octetText ip.a ++ '.' :: (octetText ip.b ++ '.' :: (octetText ip.c ++ '.' :: octetText ip.d))

def octetOf? (digits : List Char) : Option UInt8 :=
  if 3 < digits.length || (digits.head? == some '0' && 1 < digits.length) then none
  else (Numeral.digitsWithin? 255 digits).map UInt8.ofNat

def readOctet (text : List Char) : Option (UInt8 × List Char) :=
  (octetOf? (text.takeWhile Numeral.isDigit)).map fun octet =>
    (octet, text.dropWhile Numeral.isDigit)

def read (text : List Char) : Option (Ipv4 × List Char) := do
  let (a, text) ← readOctet text
  let (b, text) ← readOctet (← expect '.' text)
  let (c, text) ← readOctet (← expect '.' text)
  let (d, text) ← readOctet (← expect '.' text)
  return (⟨a, b, c, d⟩, text)

def ofText? (text : List Char) : Option Ipv4 :=
  match read text with
  | some (ip, []) => some ip
  | _ => none

def words (ip : Ipv4) : List UInt16 :=
  [ UInt16.ofNat (ip.a.toNat * 256 + ip.b.toNat), UInt16.ofNat (ip.c.toNat * 256 + ip.d.toNat) ]

def ofNat (n : Nat) : Ipv4 :=
  ⟨UInt8.ofNat (n / Nat.pow 2 24), UInt8.ofNat (n / Nat.pow 2 16 % 256), UInt8.ofNat (n / Nat.pow 2 8 % 256),
    UInt8.ofNat (n % 256)⟩

end Ipv4

end NodeLink.Address
