import NodeLink.Digest.Blake3
import NodeLink.Link.Frame
import NodeLink.Text.Hex
import NodeLink.Text.Quoted
/-!
# Binding a link

What a link is bound with, the checks that come before any socket is opened,
and the name under which two ends of a link agree to talk.  Under a network key
the name carries a tag that only holders of the key can form.
-/

namespace NodeLink.Link

open NodeLink.Text

structure Terms where
  key : Option (List UInt8)
  protocols : List String
  deriving DecidableEq, Repr

def Terms.redacted (terms : Terms) : String :=
  Quoted.record "BindOptions"
    [ ("psk", Quoted.optional (terms.key.map fun _ => Quoted.quote "<redacted>")),
      ("protocols", Quoted.list (terms.protocols.map Quoted.quote)) ]

def keySize : Nat := 32

/-- Adds each identifier to those that are registered, up to the first that cannot be. -/
def register (registered : List String) : List String → Except ProtocolFlaw (List String)
  | [] => .ok registered
  | protocol :: rest =>
    let size := Utf8.byteCount protocol
    if size = 0 ∨ maxProtocolSize < size then .error (.badLength protocol)
    else if protocol ∈ registered then .error (.repeated protocol)
    else register (registered ++ [protocol]) rest

def checkProtocols (protocols : List String) : Except Error (List String) :=
  match protocols with
  | [] => .error (.invalidProtocol .noneRegistered)
  | _ => (register [] protocols).mapError .invalidProtocol

def checkKey (key? : Option (List UInt8)) : Except Error Unit :=
  match key? with
  | none => .ok ()
  | some key => if key.length = keySize then .ok () else .error (.invalidKey key.length)

def alpn : String := "/warpnet/bridge/1.0.0"

def tagContext : String := "warpnet-pnet"

def tagDigits : Nat := 16

def tag (key : List UInt8) : String :=
  String.ofList ((Hex.encode (Digest.Blake3.keyed key (Utf8.bytesOf tagContext))).toList.take tagDigits)

def alpnOf (key? : Option (List UInt8)) : Except Error String :=
  match key? with
  | none => .ok alpn
  | some key =>
    match checkKey key? with
    | .error error => .error error
    | .ok () => .ok (alpn ++ "/pnet/" ++ tag key)

/-- What a link serves and the name it goes by, as far as its terms settle them. -/
structure Setup where
  protocols : List String
  alpn : String
  deriving DecidableEq, Repr

def Terms.prepare (terms : Terms) : Except Error Setup := do
  let protocols ← checkProtocols terms.protocols
  let alpn ← alpnOf terms.key
  return { protocols, alpn }

def Terms.check (terms : Terms) : Except Error Unit :=
  terms.prepare.map fun _ => ()

end NodeLink.Link
