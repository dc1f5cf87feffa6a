/-!
# Hexadecimal digits

Bytes as pairs of lower-case hexadecimal digits, and the value of a digit in
either case.
-/

namespace NodeLink.Text.Hex

def digit (n : Nat) : Char :=
  if n < 10 then Char.ofNat (0x30 + n) else Char.ofNat (0x61 + n - 10)

def upperDigit (n : Nat) : Char :=
  if n < 10 then Char.ofNat (0x30 + n) else Char.ofNat (0x41 + n - 10)

def value? (c : Char) : Option Nat :=
  let code := c.toNat
  if 0x30 ≤ code && code ≤ 0x39 then some (code - 0x30)
  else if 0x61 ≤ code && code ≤ 0x66 then some (code - 0x61 + 10)
  else if 0x41 ≤ code && code ≤ 0x46 then some (code - 0x41 + 10)
  else none

def isDigit (c : Char) : Bool := (value? c).isSome

def encodeByte (b : UInt8) : List Char :=
  [digit (b.toNat / 16), digit (b.toNat % 16)]

def encode (bytes : List UInt8) : String :=
  String.ofList (bytes.flatMap encodeByte)

def number? (digits : List Char) : Option Nat :=
  match digits with
  | [] => none
  | _ => digits.foldlM (fun total c => (value? c).map (total * 16 + ·)) 0

def decode : List Char → Option (List UInt8)
  | [] => some []
  | [_] => none
  | high :: low :: rest => do
    let upper ← value? high
    let lower ← value? low
    let bytes ← decode rest
    return UInt8.ofNat (upper * 16 + lower) :: bytes

end NodeLink.Text.Hex
