/-!
# Base64

The standard alphabet.  Three bytes make four characters; a shorter last group
is filled up with `=` in the padded form and left short in the bare form.
Reading is strict in both forms: the bits that a short group leaves over must
be zero, and padding must be exactly what writing produces.
-/

namespace NodeLink.Text.Base64

def digit (n : Nat) : Char :=
  if n < 26 then Char.ofNat (0x41 + n)
  else if n < 52 then Char.ofNat (0x61 + n - 26)
  else if n < 62 then Char.ofNat (0x30 + n - 52)
  else if n = 62 then '+'
  else '/'

def value? (c : Char) : Option Nat :=
  let code := c.toNat
  if 0x41 ≤ code && code ≤ 0x5A then some (code - 0x41)
  else if 0x61 ≤ code && code ≤ 0x7A then some (code - 0x61 + 26)
  else if 0x30 ≤ code && code ≤ 0x39 then some (code - 0x30 + 52)
  else if c = '+' then some 62
  else if c = '/' then some 63
  else none

/-- The characters of the groups, and `fill` for every place that a short last
group leaves empty. -/
def encodeWith (fill : List Char) : List UInt8 → List Char
  | [] => []
  | [a] => digit (a.toNat / 4) :: digit (a.toNat % 4 * 16) :: (fill ++ fill)
  | [a, b] =>
    digit (a.toNat / 4) :: digit (a.toNat % 4 * 16 + b.toNat / 16) ::
      digit (b.toNat % 16 * 4) :: fill
  | a :: b :: c :: rest =>
    digit (a.toNat / 4) :: digit (a.toNat % 4 * 16 + b.toNat / 16) ::
      digit (b.toNat % 16 * 4 + c.toNat / 64) :: digit (c.toNat % 64) ::
      encodeWith fill rest

def encode (bytes : List UInt8) : List Char := encodeWith ['='] bytes

def encodeBare (bytes : List UInt8) : List Char := encodeWith [] bytes

def encodeText (bytes : List UInt8) : String := String.ofList (encode bytes)

def groupOfTwo (a b : Char) : Option (List UInt8) := do
  let x ← value? a
  let y ← value? b
  if y % 16 = 0 then some [UInt8.ofNat (x * 4 + y / 16)] else none

def groupOfThree (a b c : Char) : Option (List UInt8) := do
  let x ← value? a
  let y ← value? b
  let z ← value? c
  if z % 4 = 0 then
    some [UInt8.ofNat (x * 4 + y / 16), UInt8.ofNat (y % 16 * 16 + z / 4)]
  else none

def groupOfFour (a b c d : Char) : Option (List UInt8) := do
  let x ← value? a
  let y ← value? b
  let z ← value? c
  let w ← value? d
  return [UInt8.ofNat (x * 4 + y / 16), UInt8.ofNat (y % 16 * 16 + z / 4),
    UInt8.ofNat (z % 4 * 64 + w)]

def decode : List Char → Option (List UInt8)
  | [] => some []
  | [a, b, '=', '='] => groupOfTwo a b
  | [a, b, c, '='] => groupOfThree a b c
  | a :: b :: c :: d :: rest => do
    let group ← groupOfFour a b c d
    let bytes ← decode rest
    return group ++ bytes
  | _ => none

def decodeBare : List Char → Option (List UInt8)
  | [] => some []
  | [_] => none
  | [a, b] => groupOfTwo a b
  | [a, b, c] => groupOfThree a b c
  | a :: b :: c :: d :: rest => do
    let group ← groupOfFour a b c d
    let bytes ← decodeBare rest
    return group ++ bytes

end NodeLink.Text.Base64
