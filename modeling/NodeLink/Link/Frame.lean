import NodeLink.Link.Error
import NodeLink.Text.Utf8
/-!
# Frames

A request on the wire: the size of the protocol identifier in two bytes, high
byte first, the identifier in UTF-8, and the body up to the end.  An identifier
has between 1 and 255 bytes, so its size always fits.
-/

namespace NodeLink.Link

open NodeLink.Text

def quotedHead : Nat := 16

def checkProtocol (protocol : String) : Except Error Unit :=
  let size := Utf8.byteCount protocol
  if size = 0 then .error (.invalidProtocol .empty)
  else if maxProtocolSize < size then
    .error (.invalidProtocol (.tooLong (String.ofList (protocol.toList.take quotedHead)) size))
  else .ok ()

structure Frame where
  protocol : String
  body : List UInt8
  deriving DecidableEq, Repr

namespace Frame

def header (size : Nat) : List UInt8 :=
  [UInt8.ofNat (size / 256), UInt8.ofNat (size % 256)]

def encode (frame : Frame) : Except Error (List UInt8) :=
  match checkProtocol frame.protocol with
  | .error error => .error error
  | .ok () =>
    let bytes := Utf8.bytesOf frame.protocol
    .ok (header bytes.length ++ bytes ++ frame.body)

def decodeSized (size : Nat) (rest : List UInt8) : Except Error Frame :=
  if rest.length < size then .error (.framing (.tooShort size rest.length))
  else
    match Utf8.decodeOrExplain (rest.take size) with
    | .error explanation => .error (.framing (.notUtf8 explanation))
    | .ok chars =>
      let protocol := String.ofList chars
      match checkProtocol protocol with
      | .error error => .error error
      | .ok () => .ok ⟨protocol, rest.drop size⟩

def decode : List UInt8 → Except Error Frame
  | high :: low :: rest => decodeSized (high.toNat * 256 + low.toNat) rest
  | _ => .error (.framing .truncated)

end Frame

end NodeLink.Link
