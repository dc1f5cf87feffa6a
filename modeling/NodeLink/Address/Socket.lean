import NodeLink.Address.Ipv6
/-!
# Socket addresses

An IP address with a port.  An IPv6 address stands in brackets and may carry a
zone, which is shown only where it is not zero.
-/

namespace NodeLink.Address

open NodeLink.Text

inductive Socket
  | v4 (ip : Ipv4) (port : UInt16)
  | v6 (ip : Ipv6) (zone : UInt32) (port : UInt16)
  deriving DecidableEq, Repr

namespace Socket

def port : Socket → UInt16
  | .v4 _ port => port
  | .v6 _ _ port => port

def isV6 : Socket → Bool
  | .v4 _ _ => false
  | .v6 _ _ _ => true

def zoneText (zone : UInt32) : List Char :=
  if zone = 0 then [] else '%' :: Numeral.ofNat zone.toNat

def portText (port : UInt16) : List Char := ':' :: Numeral.ofNat port.toNat

def render : Socket → List Char
  | .v4 ip port => ip.render ++ portText port
  | .v6 ip zone port => '[' :: (ip.render ++ zoneText zone ++ ']' :: portText port)

def readZone (text : List Char) : UInt32 × List Char :=
  match (expect '%' text).bind (readNumber (Nat.pow 2 32 - 1)) with
  | some (zone, rest) => (UInt32.ofNat zone, rest)
  | none => (0, text)

def readPort (text : List Char) : Option (UInt16 × List Char) := do
  let (port, rest) ← readNumber Numeral.maxWord16 (← expect ':' text)
  return (UInt16.ofNat port, rest)

def readV4 (text : List Char) : Option (Socket × List Char) := do
  let (ip, text) ← Ipv4.read text
  let (port, text) ← readPort text
  return (.v4 ip port, text)

def readV6 (text : List Char) : Option (Socket × List Char) := do
  let (ip, text) ← Ipv6.read (← expect '[' text)
  let (zone, text) := readZone text
  let (port, text) ← readPort (← expect ']' text)
  return (.v6 ip zone port, text)

def ofText? (text : List Char) : Option Socket :=
  match (readV4 text).or (readV6 text) with
  | some (socket, []) => some socket
  | _ => none

end Socket

end NodeLink.Address
