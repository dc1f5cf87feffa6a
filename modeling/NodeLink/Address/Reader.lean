import NodeLink.Address.Basic
import NodeLink.Text.Blank
/-!
# Reading addresses

The textual forms of an address: a socket address, a host with a port, the URL
of a relay, or a path of components such as `/ip4/192.0.2.1/udp/4001`.  The
ports of `tcp` and `udp` components mean the same.
-/

namespace NodeLink.Address

open NodeLink.Text

def portOf (text : List Char) : Except Reason UInt16 :=
  match Numeral.within? Numeral.maxWord16 text with
  | none => .error (.badPort (String.ofList text))
  | some 0 => .error (.badPort (String.ofList text))
  | some (n + 1) => .ok (UInt16.ofNat (n + 1))

def component (part : String) : List (List Char) → Except Reason (List Char × List (List Char))
  | [] => .error (.missing part)
  | [] :: _ => .error (.missing part)
  | (c :: cs) :: rest => .ok (c :: cs, rest)

inductive HostKind
  | literalV4
  | literalV6
  | named (family : Family)
  deriving DecidableEq, Repr

def hostKind? (protocol : String) : Option HostKind :=
  if protocol = "ip4" then some .literalV4
  else if protocol = "ip6" then some .literalV6
  else if protocol = "dns" then some (.named .any)
  else if protocol = "dns4" then some (.named .v4)
  else if protocol = "dns6" then some (.named .v6)
  else none

def hostKindOf (protocol : List Char) : Except Reason HostKind :=
  match hostKind? (String.ofList protocol) with
  | some kind => .ok kind
  | none => .error (.unsupportedProtocol (String.ofList protocol))

def hostOf (kind : HostKind) (host : List Char) : Except Reason (UInt16 → Destination) :=
  match kind with
  | .literalV4 =>
    match Ipv4.ofText? host, Ipv6.ofText? host with
    | some ip, _ => .ok fun port => .socket (.v4 ip port)
    | none, some _ => .error (.wrongFamily "ip4")
    | none, none => .error (.badLiteral "ip4")
  | .literalV6 =>
    match Ipv4.ofText? host, Ipv6.ofText? host with
    | some _, _ => .error (.wrongFamily "ip6")
    | none, some ip => .ok fun port => .socket (.v6 ip 0 port)
    | none, none => .error (.badLiteral "ip6")
  | .named family =>
    if namesHost host then .ok fun port => .host host port family else .error .badHostname

def transportOf (name : List Char) : Except Reason Unit :=
  if String.ofList name = "tcp" ∨ String.ofList name = "udp" then .ok ()
  else .error (.unsupportedTransport (String.ofList name))

/-- The components after the port: any number of `quic` and `quic-v1`, then
possibly the node, then possibly an empty component at the very end. -/
def tailOf (peer : Option String) : List (List Char) → Except Reason (Option String)
  | [] => .ok peer
  | part :: rest =>
    let name := String.ofList part
    if (name = "quic" ∨ name = "quic-v1") ∧ peer = none then tailOf none rest
    else if name = "p2p" ∧ peer = none then
      match rest with
      | [] => .error .missingPeer
      | [] :: _ => .error .missingPeer
      | (c :: cs) :: rest => tailOf (some (String.ofList (c :: cs))) rest
    else if name = "p2p-circuit" then .error .circuit
    else if part = [] ∧ rest = [] then .ok peer
    else .error (.unexpected name)

def ofComponents (parts : List (List Char)) : Except Reason Parsed := do
  let (protocol, parts) ← component "address protocol" parts
  let (host, parts) ← component "host" parts
  let kind ← hostKindOf protocol
  let destination ← hostOf kind host
  let (transport, parts) ← component "transport" parts
  transportOf transport
  let (port, parts) ← component "port" parts
  let port ← portOf port
  let peer ← tailOf none parts
  return { destination := destination port, peer }

def splitLastColon (text : List Char) : Option (List Char × List Char) :=
  if text.contains ':' then
    let behind := (text.reverse.takeWhile (· ≠ ':')).reverse
    some (text.take (text.length - behind.length - 1), behind)
  else none

def ofHostAndPort (text : List Char) : Except Reason Parsed :=
  match splitLastColon text with
  | none => .error .unknownForm
  | some (host, port) =>
    if namesHost host then
      (portOf port).map fun port => { destination := .host host port .any, peer := none }
    else .error .unknownForm

def ofPlain (text : List Char) : Except Reason Parsed :=
  match Socket.ofText? text with
  | some socket => .ok { destination := .socket socket, peer := none }
  | none => ofHostAndPort text

def ofTrimmed (text : List Char) : Except Reason Parsed :=
  match text with
  | [] => .error .empty
  | '/' :: rest => ofComponents (splitAt '/' rest)
  | _ =>
    match RelayUrl.splitScheme? text with
    | some (scheme, rest) =>
      match RelayUrl.ofRest? scheme rest with
      | some url => .ok { destination := .relay url, peer := none }
      | none => .error .badRelayUrl
    | none => ofPlain text

def read (text : String) : Except Link.Error Parsed :=
  let text := trimmed text.toList
  (ofTrimmed text).mapError (Link.Error.invalidAddress (String.ofList text))

end NodeLink.Address
