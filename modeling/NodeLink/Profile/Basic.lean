import NodeLink.Profile.NetworkKey
import NodeLink.Text.Quoted
/-!
# Node profiles

A profile says how to reach one node and how to prove oneself to it: the
identity of the node, up to three address hints, a session token, the key of a
private network, and the entries at which discovery starts.  A profile may be
held without being usable; `Profile.check` says what keeps it from being so.
-/

namespace NodeLink

open NodeLink.Text

structure Profile where
  peer : String
  lan : Option String
  remote : Option String
  relay : Option String
  token : String
  key : Option NetworkKey
  preferRelay : Bool
  bootstrap : List String
  deriving DecidableEq, Repr

def defaultBootstrap : List String :=
  [ "/dns4/bootstrap-1.warpnet.network/udp/4001/quic-v1",
    "/dns4/bootstrap-2.warpnet.network/udp/4001/quic-v1",
    "/dns4/bootstrap-3.warpnet.network/udp/4001/quic-v1" ]

def testBootstrap : List String :=
  [ "/dns4/testnet-1.warpnet.network/udp/4101/quic-v1",
    "/dns4/testnet-2.warpnet.network/udp/4101/quic-v1" ]

inductive Route
  | lan
  | remote
  | relay
  deriving DecidableEq, Repr

def Route.name : Route → String
  | .lan => "lan"
  | .remote => "remote"
  | .relay => "relay"

structure Hint where
  route : Route
  address : String
  deriving DecidableEq, Repr

namespace Profile

def of (peer token : String) : Profile :=
  { peer, lan := none, remote := none, relay := none, token, key := none,
    preferRelay := false, bootstrap := defaultBootstrap }

inductive Flaw
  | blankPeer
  | blankToken
  deriving DecidableEq, Repr

def Flaw.message : Flaw → String
  | .blankPeer => "invalid configuration: peer_id must not be empty"
  | .blankToken => "invalid configuration: session_token must not be empty"

/-- The first flaw of a profile, the peer being looked at before the token. -/
def flaw? (profile : Profile) : Option Flaw :=
  if isBlankText profile.peer then some .blankPeer
  else if isBlankText profile.token then some .blankToken
  else none

def check (profile : Profile) : Except Flaw Profile :=
  match profile.flaw? with
  | some flaw => .error flaw
  | none => .ok profile

def hints (profile : Profile) : List Hint :=
  (profile.lan.map (Hint.mk .lan)).toList ++ (profile.remote.map (Hint.mk .remote)).toList ++
    (profile.relay.map (Hint.mk .relay)).toList

/-- The hint to dial.  A relay counts only where it is preferred, and then
comes first. -/
def preferred? (profile : Profile) : Option Hint :=
  let relayed := if profile.preferRelay then profile.relay.map (Hint.mk .relay) else none
  relayed.or ((profile.lan.map (Hint.mk .lan)).or (profile.remote.map (Hint.mk .remote)))

def isReachable (profile : Profile) : Bool :=
  !profile.hints.isEmpty || !profile.bootstrap.isEmpty

def redacted (profile : Profile) : String :=
  let shown (text? : Option String) := Quoted.optional (text?.map Quoted.quote)
  Quoted.record "NodeConfig"
    [ ("peer_id", Quoted.quote profile.peer),
      ("lan_address", shown profile.lan),
      ("remote_address", shown profile.remote),
      ("relay_address", shown profile.relay),
      ("session_token", Quoted.quote "<redacted>"),
      ("psk", Quoted.optional (profile.key.map NetworkKey.redacted)),
      ("use_relay", toString profile.preferRelay),
      ("bootstrap_nodes", Quoted.list (profile.bootstrap.map Quoted.quote)) ]

end Profile

end NodeLink
