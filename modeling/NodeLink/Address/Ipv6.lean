import NodeLink.Address.Ipv4
import NodeLink.Text.Hex
/-!
# IPv6 addresses

Eight words of 16 bits.  The text form writes words in lower-case hexadecimal
and replaces the first longest run of at least two zero words by `::`.  Reading
also takes upper case, leading zeros, a run of a single word and an IPv4
address in the place of the last two words.
-/

namespace NodeLink.Address

open NodeLink.Text

structure Ipv6 where
  words : List UInt16
  length_eq : words.length = 8
  deriving DecidableEq, Repr

namespace Ipv6

def ofWords? (words : List UInt16) : Option Ipv6 :=
  if h : words.length = 8 then some ⟨words, h⟩ else none

def wordText (word : UInt16) : List Char := Nat.toDigits 16 word.toNat

def joinWords : List UInt16 → List Char
  | [] => []
  | [word] => wordText word
  | word :: rest => wordText word ++ ':' :: joinWords rest

def zeros : List UInt16 → Nat
  | [] => 0
  | word :: rest => if word = 0 then zeros rest + 1 else 0

/-- The start and length of the first longest run of zeros, found from the
back; `start` is the place of the front of the list. -/
def longestRun : List UInt16 → Nat → Nat × Nat
  | [], start => (start, 0)
  | word :: rest, start =>
    let here := zeros (word :: rest)
    let later := longestRun rest (start + 1)
    if later.2 ≤ here then (start, here) else later

def compressed (words : List UInt16) : List Char :=
  let (start, length) := longestRun words 0
  if length < 2 then joinWords words
  else joinWords (words.take start) ++ ':' :: ':' :: joinWords (words.drop (start + length))

def mapped? (ip : Ipv6) : Option Ipv4 :=
  match ip.words with
  | [0, 0, 0, 0, 0, 0xFFFF, high, low] => some (Ipv4.ofNat (high.toNat * 65536 + low.toNat))
  | _ => none

def render (ip : Ipv6) : List Char :=
  match ip.mapped? with
  | some v4 => [':', ':', 'f', 'f', 'f', 'f', ':'] ++ v4.render
  | none => compressed ip.words

def readWord (text : List Char) : Option (UInt16 × List Char) :=
  let isHex (c : Char) := (Hex.value? c).isSome
  let digits := text.takeWhile isHex
  if 4 < digits.length then none
  else (Hex.number? digits).map fun n => (UInt16.ofNat n, text.dropWhile isHex)

def separated (first : Bool) (text : List Char) : Option (List Char) :=
  if first then some text else expect ':' text

def readGroups : Nat → Bool → List Char → List UInt16 × Bool × List Char
  | 0, _, text => ([], false, text)
  | limit + 1, first, text =>
    let embedded := if limit = 0 then none else (separated first text).bind Ipv4.read
    match embedded with
    | some (ip, rest) => (ip.words, true, rest)
    | none =>
      match (separated first text).bind readWord with
      | none => ([], false, text)
      | some (word, rest) =>
        let (words, isEmbedded, rest) := readGroups limit false rest
        (word :: words, isEmbedded, rest)

/-- All eight words, or a `::` with fewer than eight words around it, which
stands for the missing ones; an IPv4 address only at the end. -/
def read (text : List Char) : Option (Ipv6 × List Char) := do
  let (head, isEmbedded, rest) := readGroups 8 true text
  if head.length = 8 then
    return (← ofWords? head, rest)
  else if isEmbedded then none
  else
    let (tail, _, rest) := readGroups (7 - head.length) true (← expect ':' (← expect ':' rest))
    let missing := List.replicate (8 - head.length - tail.length) 0
    return (← ofWords? (head ++ missing ++ tail), rest)

def ofText? (text : List Char) : Option Ipv6 :=
  match read text with
  | some (ip, []) => some ip
  | _ => none

end Ipv6

end NodeLink.Address
