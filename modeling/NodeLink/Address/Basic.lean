import NodeLink.Address.RelayUrl
import NodeLink.Address.Socket
import NodeLink.Link.Error
/-!
# Addresses

Where a node can be reached: at a socket address, at a port of a named host,
or through a relay.  An address may also name the node it leads to.
-/

namespace NodeLink.Address

open NodeLink.Text

inductive Family
  | any
  | v4
  | v6
  deriving DecidableEq, Repr

inductive Destination
  | socket (socket : Socket)
  | host (name : List Char) (port : UInt16) (family : Family)
  | relay (url : RelayUrl)
  deriving DecidableEq, Repr

def Destination.render : Destination → List Char
  | .socket place => place.render
  | .host name port _ => name ++ Socket.portText port
  | .relay url => url.render

def Destination.text (destination : Destination) : String :=
  String.ofList destination.render

structure Parsed where
  destination : Destination
  peer : Option String
  deriving DecidableEq, Repr

def Family.admitsV4 : Family → Bool
  | .any => true
  | .v4 => true
  | .v6 => false

/-- The socket addresses of a destination that needs no name service: a socket
address stands for itself, a relay has none, and a host that is written as an
IPv4 address has that one if the family takes it. -/
def Destination.resolve? : Destination → Option (Except Link.Error (List Socket))
  | .socket place => some (.ok [place])
  | .relay _ => some (.ok [])
  | .host name port family =>
    (Ipv4.ofText? name).map fun ip =>
      if family.admitsV4 then .ok [.v4 ip port]
      else .error (.invalidAddress (String.ofList name) .noRecords)

structure Contact where
  sockets : List Socket
  relays : List RelayUrl

def Destination.contact? (destination : Destination) : Option (Except Link.Error Contact) :=
  match destination with
  | .relay url => some (.ok ⟨[], [url]⟩)
  | _ => destination.resolve?.map fun sockets => sockets.map fun sockets => ⟨sockets, []⟩

end NodeLink.Address
