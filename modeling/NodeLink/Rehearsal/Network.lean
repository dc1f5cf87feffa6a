import NodeLink.Address.Reader
import NodeLink.Link.Binding
/-!
# Rehearsed networks

A network without wires.  A script says how the other side behaves, and can be
changed at any time; every link that is bound records what happens on it.
Dialing is the one thing that may take time, so it has a start, which records
the call and reads the script, and an end, which decides.
-/

namespace NodeLink.Rehearsal

open NodeLink.Link (Terms)

inductive Reply
  | body (bytes : List UInt8)
  | lost
  | timeout
  | reset
  deriving DecidableEq, Repr

structure Target where
  peer : String
  address : Address.Parsed
  deriving DecidableEq, Repr

inductive Call
  | resolve (entry : String)
  | dial (target : Target)
  | request (protocol : String) (payload : List UInt8)
  | close
  deriving DecidableEq, Repr

structure Script where
  bindFailure : Option String
  dialFailure : Option String
  dialDelay : Option Duration
  unresolvable : List String
  replies : List (String × Reply)
  deriving DecidableEq, Repr

namespace Script

def initial : Script :=
  { bindFailure := none, dialFailure := none, dialDelay := none, unresolvable := [], replies := [] }

def defaultReply : Reply := .body [0x7B, 0x7D]

def replyTo (script : Script) (protocol : String) : Reply :=
  match script.replies.find? (·.1 = protocol) with
  | some (_, reply) => reply
  | none => defaultReply

def setReply (script : Script) (protocol : String) (reply : Reply) : Script :=
  { script with replies := (protocol, reply) :: script.replies }

def delay (script : Script) : Duration := script.dialDelay.getD ⟨0⟩

def bindFault? (script : Script) (terms : Terms) : Option Link.Error :=
  match script.bindFailure with
  | some reason => some (.bind reason)
  | none =>
    match Link.checkKey terms.key with
    | .error error => some error
    | .ok () => none

end Script

/-- A bound link, with the calls made on it and what came back on its requests,
both in order; a request that failed brought nothing. -/
structure Link where
  protocols : List String
  calls : List Call
  replies : List (Option (List UInt8))
  dialed : Bool
  lost : Bool
  closed : Bool
  deriving DecidableEq, Repr

def Link.bound (protocols : List String) : Link :=
  { protocols, calls := [], replies := [], dialed := false, lost := false, closed := false }

def Link.record (link : Link) (call : Call) : Link :=
  { link with calls := link.calls ++ [call] }

/-- A link carries requests between a dial that succeeded and the loss of the
connection or its closing. -/
def Link.isUp (link : Link) : Bool :=
  link.dialed && !link.lost && !link.closed

abbrev LinkId := Nat

structure Network where
  script : Script
  binds : List Terms
  links : List Link
  deriving DecidableEq, Repr

namespace Network

def initial : Network := { script := .initial, binds := [], links := [] }

def localName (id : LinkId) : String := "scripted-" ++ toString id

def link? (network : Network) (id : LinkId) : Option Link := network.links[id]?

def modify (network : Network) (id : LinkId) (change : Link → Link) : Network :=
  { network with links := network.links.modify id change }

def record (network : Network) (id : LinkId) (call : Call) : Network :=
  network.modify id (·.record call)

def isUp (network : Network) (id : LinkId) : Bool :=
  (network.link? id).any Link.isUp

def isOpen (network : Network) (id : LinkId) : Bool :=
  (network.link? id).any (!·.closed)

def openLinks (network : Network) : List LinkId :=
  (List.range network.links.length).filter network.isOpen

/-- Binds a link; the attempt is noted even if it fails. -/
def bind (network : Network) (terms : Terms) : Network × Except Link.Error LinkId :=
  let attempted := { network with binds := network.binds ++ [terms] }
  match network.script.bindFault? terms with
  | some error => (attempted, .error error)
  | none =>
    ({ attempted with links := network.links ++ [.bound terms.protocols] },
      .ok network.links.length)

def resolvedSocket : Address.Socket := .v4 ⟨198, 51, 100, 1⟩ 4001

def resolve (network : Network) (id : LinkId) (entry : String) :
    Network × Except Link.Error (List Address.Socket) :=
  let result := if entry ∈ network.script.unresolvable
    then .error (.invalidAddress entry .unresolvable)
    else .ok [resolvedSocket]
  (network.record id (.resolve entry), result)

def resolveEach (network : Network) (id : LinkId) (entries : List String) : Network :=
  entries.foldl (fun network entry => (network.resolve id entry).1) network

/-- Starts to dial: how long it takes and whether it fails is decided now. -/
def startDial (network : Network) (id : LinkId) (target : Target) :
    Network × Duration × Option String :=
  (network.record id (.dial target), network.script.delay, network.script.dialFailure)

/-- Ends a dial on a link, which may have been closed meanwhile. -/
def endDial (network : Network) (id : LinkId) (failure : Option String) :
    Network × Except Link.Error Unit :=
  if network.isOpen id then
    match failure with
    | some reason => (network, .error (.dialFailed reason))
    | none => (network.modify id fun link => { link with dialed := true, lost := false }, .ok ())
  else (network, .error .notConnected)

def lossReason : String := "scripted connection loss"

def resetReason : String := "scripted stream reset"

def answerTimeout : Duration := .ofSecs 30

def answer (network : Network) (id : LinkId) (protocol : String) :
    Network × Except Link.Error (List UInt8) :=
  match network.script.replyTo protocol with
  | .body bytes => (network, .ok bytes)
  | .lost =>
    (network.modify id fun link => { link with lost := true }, .error (.connectionLost lossReason))
  | .timeout => (network, .error (.timeout answerTimeout))
  | .reset => (network, .error (.stream resetReason))

def reply (network : Network) (id : LinkId) (protocol : String) :
    Network × Except Link.Error (List UInt8) :=
  match network.link? id with
  | none => (network, .error .notConnected)
  | some link =>
    if protocol ∉ link.protocols then (network, .error (.unknownProtocol protocol))
    else if link.closed || !link.dialed then (network, .error .notConnected)
    else if link.lost then (network, .error (.connectionLost lossReason))
    else network.answer id protocol

def request (network : Network) (id : LinkId) (protocol : String) (payload : List UInt8) :
    Network × Except Link.Error (List UInt8) :=
  let (network, result) := (network.record id (.request protocol payload)).reply id protocol
  (network.modify id fun link => { link with replies := link.replies ++ [result.toOption] }, result)

def close (network : Network) (id : LinkId) : Network :=
  if network.isOpen id then
    network.modify id fun link => { link.record .close with closed := true }
  else network

def release (network : Network) (id? : Option LinkId) : Network :=
  match id? with
  | none => network
  | some id => network.close id

def cut (network : Network) : Network :=
  { network with links := network.links.map fun link => { link with lost := true } }

end Network

end NodeLink.Rehearsal
