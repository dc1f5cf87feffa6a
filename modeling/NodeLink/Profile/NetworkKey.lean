import NodeLink.Text.Base64
import NodeLink.Text.Blank
/-!
# Network keys

The secret that nodes of a private network share.  Any byte string can be
carried as a key; only one of 32 bytes can be used to bind a link.
-/

namespace NodeLink

open NodeLink.Text

structure NetworkKey where
  bytes : List UInt8
  deriving DecidableEq, Repr

namespace NetworkKey

def fullSize : Nat := 32

def size (key : NetworkKey) : Nat := key.bytes.length

def hasFullSize (key : NetworkKey) : Bool := key.size == fullSize

def text (key : NetworkKey) : String := Base64.encodeText key.bytes

/-- Reads a key from base64 with or without padding.  Blank characters may
stand anywhere; a key without bytes is no key. -/
def ofText? (text : String) : Option NetworkKey :=
  let compact := withoutBlanks text
  match (Base64.decode compact).or (Base64.decodeBare compact) with
  | none => none
  | some [] => none
  | some bytes => some ⟨bytes⟩

def redacted (key : NetworkKey) : String :=
  "Psk(" ++ toString key.size ++ " bytes)"

end NetworkKey

end NodeLink
