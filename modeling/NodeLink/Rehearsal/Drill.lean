import NodeLink.Rehearsal.Cue
/-!
# Drills

A rehearsed network used directly, one step after the other and without a
session above it.  A dial is waited for, so a delay has no other effect here.
-/

namespace NodeLink.Rehearsal

open NodeLink.Link (Terms)

namespace Drill

inductive Step
  | cue (cue : Cue)
  | bind (terms : Terms)
  | dial (link : LinkId) (peer : String) (address : String)
  | request (link : LinkId) (protocol : String) (payload : List UInt8)
  | resolve (link : LinkId) (entry : String)
  | close (link : LinkId)
  | status (link : LinkId)
  deriving DecidableEq, Repr

inductive Answer
  | nothing
  | bound (link : LinkId) (terms : Terms)
  | body (bytes : List UInt8)
  | sockets (sockets : List Address.Socket)
  | status (isUp isOpen : Bool)
  deriving DecidableEq, Repr

def dial (network : Network) (link : LinkId) (peer address : String) :
    Network × Except Link.Error Unit :=
  match Address.read address with
  | .error error => (network, .error error)
  | .ok address =>
    let (network, _, failure) := network.startDial link { peer, address }
    network.endDial link failure

def run (network : Network) (step : Step) : Network × Except Link.Error Answer :=
  match step with
  | .cue cue => (network.cue cue, .ok .nothing)
  | .bind terms =>
    let (network, bound) := network.bind terms
    (network, bound.map fun link => .bound link terms)
  | .dial link peer address =>
    let (network, dialed) := dial network link peer address
    (network, dialed.map fun _ => .nothing)
  | .request link protocol payload =>
    let (network, reply) := network.request link protocol payload
    (network, reply.map .body)
  | .resolve link entry =>
    let (network, found) := network.resolve link entry
    (network, found.map .sockets)
  | .close link => (network.close link, .ok .nothing)
  | .status link => (network, .ok (.status (network.isUp link) (network.isOpen link)))

end Drill

end NodeLink.Rehearsal
