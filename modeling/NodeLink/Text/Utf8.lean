/-!
# UTF-8

Texts as bytes.  `encode` writes a list of characters; `decode` reads bytes
back and, where they are not UTF-8, says at which byte the first fault starts
and how many bytes of a character it spoils.
-/

namespace NodeLink.Text.Utf8

def byte (n : Nat) : UInt8 := UInt8.ofNat n

def tailByte (n : Nat) : UInt8 := byte (0x80 + n % 64)

def encodeChar (c : Char) : List UInt8 :=
  let n := c.toNat
  if n < 0x80 then [byte n]
  else if n < 0x800 then [byte (0xC0 + n / 64), tailByte n]
  else if n < 0x10000 then [byte (0xE0 + n / 4096), tailByte (n / 64), tailByte n]
  else [byte (0xF0 + n / 262144), tailByte (n / 4096), tailByte (n / 64), tailByte n]

def encode (text : List Char) : List UInt8 :=
  text.flatMap encodeChar

/-- Why a byte sequence stops being UTF-8. -/
inductive Fault
  | invalid (length : Nat)
  | incomplete
  deriving DecidableEq, Repr

def isTail (low high : Nat) (b : UInt8) : Bool :=
  low ≤ b.toNat && b.toNat ≤ high

def charOf (lead second third fourth : Nat) : Char :=
  Char.ofNat (lead * 262144 + second % 64 * 4096 + third % 64 * 64 + fourth % 64)

def secondRange (lead : Nat) : Nat × Nat :=
  if lead = 0xE0 then (0xA0, 0xBF)
  else if lead = 0xED then (0x80, 0x9F)
  else if lead = 0xF0 then (0x90, 0xBF)
  else if lead = 0xF4 then (0x80, 0x8F)
  else (0x80, 0xBF)

def decodeChar (first : UInt8) (rest : List UInt8) : Except Fault (Char × Nat) :=
  let lead := first.toNat
  let range := secondRange lead
  if lead < 0x80 then .ok (Char.ofNat lead, 0)
  else if lead < 0xC2 || 0xF4 < lead then .error (.invalid 1)
  else match rest with
    | [] => .error .incomplete
    | second :: rest =>
      if !isTail range.1 range.2 second then .error (.invalid 1)
      else if lead < 0xE0 then .ok (charOf 0 0 (lead - 0xC0) second.toNat, 1)
      else match rest with
        | [] => .error .incomplete
        | third :: rest =>
          if !isTail 0x80 0xBF third then .error (.invalid 2)
          else if lead < 0xF0 then
            .ok (charOf 0 (lead - 0xE0) second.toNat third.toNat, 2)
          else match rest with
            | [] => .error .incomplete
            | fourth :: _ =>
              if !isTail 0x80 0xBF fourth then .error (.invalid 3)
              else .ok (charOf (lead - 0xF0) second.toNat third.toNat fourth.toNat, 3)

structure Decoding where
  chars : List Char
  fault : Option (Fault × List UInt8)

def Decoding.cons (c : Char) (decoding : Decoding) : Decoding :=
  { decoding with chars := c :: decoding.chars }

/-- Reads the bytes after skipping `skip` of them, which belong to the
character before. -/
def decodeFrom : List UInt8 → Nat → Decoding
  | [], _ => ⟨[], none⟩
  | _ :: rest, skip + 1 => decodeFrom rest skip
  | first :: rest, 0 =>
    match decodeChar first rest with
    | .error fault => ⟨[], some (fault, first :: rest)⟩
    | .ok (c, used) => (decodeFrom rest used).cons c

def scan (bytes : List UInt8) : Decoding :=
  decodeFrom bytes 0

/-- Like `decodeFrom`, but a byte at which no character starts is kept as a
stray and reading goes on behind it. -/
def symbolsFrom : List UInt8 → Nat → List (Option Char)
  | [], _ => []
  | _ :: rest, skip + 1 => symbolsFrom rest skip
  | first :: rest, 0 =>
    match decodeChar first rest with
    | .error _ => none :: symbolsFrom rest 0
    | .ok (c, used) => some c :: symbolsFrom rest used

def symbols (bytes : List UInt8) : List (Option Char) :=
  symbolsFrom bytes 0

def decode (bytes : List UInt8) : Option (List Char) :=
  match scan bytes with
  | ⟨chars, none⟩ => some chars
  | ⟨_, some _⟩ => none

def faultMessage (fault : Fault) (index : Nat) : String :=
  match fault with
  | .invalid length =>
    "invalid utf-8 sequence of " ++ toString length ++ " bytes from index " ++ toString index
  | .incomplete => "incomplete utf-8 byte sequence from index " ++ toString index

def decodeOrExplain (bytes : List UInt8) : Except String (List Char) :=
  match scan bytes with
  | ⟨chars, none⟩ => .ok chars
  | ⟨_, some (fault, rest)⟩ => .error (faultMessage fault (bytes.length - rest.length))

def bytesOf (text : String) : List UInt8 :=
  encode text.toList

def byteCount (text : String) : Nat :=
  (bytesOf text).length

end NodeLink.Text.Utf8
