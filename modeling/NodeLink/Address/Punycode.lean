/-!
# Punycode

Texts outside ASCII as letters, digits and hyphens.  The basic characters come
first; the others follow in ascending order of their codes, each as the
distance from the one before in a number system whose thresholds adapt.
-/

namespace NodeLink.Address.Punycode

def digitChar (n : Nat) : Char :=
  if n < 26 then Char.ofNat (0x61 + n) else Char.ofNat (0x30 + n - 26)

def digitValue? (c : Char) : Option Nat :=
  let code := c.toNat
  if 0x61 ≤ code && code ≤ 0x7A then some (code - 0x61)
  else if 0x41 ≤ code && code ≤ 0x5A then some (code - 0x41)
  else if 0x30 ≤ code && code ≤ 0x39 then some (code - 0x30 + 26)
  else none

def threshold (k bias : Nat) : Nat :=
  if k ≤ bias then 1 else if bias + 26 ≤ k then 26 else k - bias

theorem threshold_bounds (k bias : Nat) : 1 ≤ threshold k bias ∧ threshold k bias ≤ 26 := by
  unfold threshold
  split
  · omega
  · split <;> omega

def shrink (delta k : Nat) : Nat × Nat :=
  if 455 < delta then shrink (delta / 35) (k + 36) else (delta, k)
termination_by delta
decreasing_by exact Nat.div_lt_self (by omega) (by omega)

def adapt (delta count : Nat) (isFirst : Bool) : Nat :=
  let halved := if isFirst then delta / 700 else delta / 2
  let (rest, k) := shrink (halved + halved / count) 0
  k + 36 * rest / (rest + 38)

def encodeDistance (bias k distance : Nat) : List Char :=
  let t := threshold k bias
  if distance < t then [digitChar distance]
  else
    digitChar (t + (distance - t) % (36 - t)) ::
      encodeDistance bias (k + 36) ((distance - t) / (36 - t))
termination_by distance
decreasing_by
  have bounds := threshold_bounds k bias
  have := Nat.div_le_self (distance - threshold k bias) (36 - threshold k bias)
  omega

structure Encoder where
  written : List Char
  delta : Nat
  bias : Nat
  handled : Nat

def Encoder.pass (basic code : Nat) (state : Encoder) (c : Char) : Encoder :=
  if c.toNat < code then { state with delta := state.delta + 1 }
  else if c.toNat = code then
    { written := state.written ++ encodeDistance state.bias 36 state.delta
      delta := 0
      bias := adapt state.delta (state.handled + 1) (state.handled == basic)
      handled := state.handled + 1 }
  else state

def encodeCodes (text : List Char) (basic : Nat) : List Nat → Nat → Encoder → Encoder
  | [], _, state => state
  | code :: codes, next, state =>
    let start := { state with delta := state.delta + (code - next) * (state.handled + 1) }
    let passed := text.foldl (Encoder.pass basic code) start
    encodeCodes text basic codes (code + 1) { passed with delta := passed.delta + 1 }

def isBasic (c : Char) : Bool := c.toNat < 0x80

def encode (text : List Char) : List Char :=
  let basic := text.filter isBasic
  let codes := ((text.filter (!isBasic ·)).map Char.toNat).mergeSort.eraseDups
  let state := encodeCodes text basic.length codes 0x80 ⟨[], 0, 72, basic.length⟩
  basic ++ (if basic.isEmpty then [] else ['-']) ++ state.written

def decodeDistance (bias : Nat) : List Char → Nat → Nat → Nat → Option (Nat × List Char)
  | [], _, _, _ => none
  | c :: rest, k, weight, total => do
    let digit ← digitValue? c
    let t := threshold k bias
    if digit < t then return (total + digit * weight, rest)
    else decodeDistance bias rest (k + 36) (weight * (36 - t)) (total + digit * weight)

structure Decoder where
  code : Nat
  place : Nat
  bias : Nat
  decoded : List Char

def Decoder.insert (state : Decoder) (reached : Nat) : Option Decoder :=
  let count := state.decoded.length + 1
  let code := state.code + reached / count
  let place := reached % count
  if 0x10FFFF < code ∨ (0xD800 ≤ code ∧ code ≤ 0xDFFF) then none
  else some
    { code
      place := place + 1
      bias := adapt (reached - state.place) count (state.place == 0)
      decoded := state.decoded.take place ++ Char.ofNat code :: state.decoded.drop place }

/-- Reads distances until the text ends.  Each takes at least one character,
so `fuel` may be the length of the text. -/
def decodeCodes : Nat → List Char → Decoder → Option (List Char)
  | _, [], state => some state.decoded
  | 0, _ :: _, _ => none
  | fuel + 1, text, state => do
    let (reached, rest) ← decodeDistance state.bias text 36 1 state.place
    decodeCodes fuel rest (← state.insert reached)

def splitLast (text : List Char) : List Char × List Char :=
  let behind := (text.reverse.takeWhile (· ≠ '-')).reverse
  match text.take (text.length - behind.length - 1) with
  | [] => ([], text)
  | basic => (basic, behind)

def decode (text : List Char) : Option (List Char) :=
  let (basic, coded) := splitLast text
  if basic.all isBasic then decodeCodes coded.length coded ⟨0x80, 0, 72, basic⟩ else none

end NodeLink.Address.Punycode
