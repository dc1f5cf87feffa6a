import NodeLink.Text.Duration
/-!
# Link errors

Everything that can go wrong between a client and a node below the session:
setting up a link, reading addresses, dialing, and exchanging frames.
-/

namespace NodeLink

namespace Address

inductive Reason
  | empty
  | unknownForm
  | badRelayUrl
  | badPort (text : String)
  | missing (part : String)
  | unsupportedProtocol (name : String)
  | badLiteral (protocol : String)
  | wrongFamily (protocol : String)
  | badHostname
  | unsupportedTransport (name : String)
  | missingPeer
  | circuit
  | unexpected (component : String)
  | noRecords
  | unresolvable
  | other (text : String)
  deriving DecidableEq, Repr

def Reason.message : Reason → String
  | .empty => "empty"
  | .unknownForm => "expected host:port, URL or multiaddr"
  | .badRelayUrl => "bad relay url: Failed to parse relay URL"
  | .badPort text => "bad port `" ++ text ++ "`"
  | .missing part => "missing " ++ part
  | .unsupportedProtocol name => "unsupported protocol `" ++ name ++ "`"
  | .badLiteral protocol => "bad " ++ protocol ++ " address"
  | .wrongFamily protocol => "not an " ++ protocol ++ " address"
  | .badHostname => "bad DNS name"
  | .unsupportedTransport name => "unsupported transport `" ++ name ++ "`"
  | .missingPeer => "missing peer id"
  | .circuit => "circuit relay is not supported"
  | .unexpected component => "unexpected component `" ++ component ++ "`"
  | .noRecords => "no matching DNS records"
  | .unresolvable => "scripted resolution failure"
  | .other text => text

end Address

namespace Link

inductive ProtocolFlaw
  | empty
  | tooLong (head : String) (size : Nat)
  | noneRegistered
  | badLength (protocol : String)
  | repeated (protocol : String)
  | other (text : String)
  deriving DecidableEq, Repr

def maxProtocolSize : Nat := 255

def ProtocolFlaw.message : ProtocolFlaw → String
  | .empty => "empty identifier"
  | .tooLong head size =>
    "`" ++ head ++ "…` is " ++ toString size ++ " bytes, limit is " ++ toString maxProtocolSize
  | .noneRegistered => "no protocols registered"
  | .badLength protocol => "`" ++ protocol ++ "` must be 1..=" ++ toString maxProtocolSize ++ " bytes"
  | .repeated protocol => "`" ++ protocol ++ "` registered twice"
  | .other text => text

inductive FrameFlaw
  | truncated
  | tooShort (announced left : Nat)
  | notUtf8 (explanation : String)
  | other (text : String)
  deriving DecidableEq, Repr

def FrameFlaw.message : FrameFlaw → String
  | .truncated => "truncated header"
  | .tooShort announced left =>
    "protocol length " ++ toString announced ++ " exceeds remaining " ++ toString left ++ " bytes"
  | .notUtf8 explanation => "protocol is not UTF-8: " ++ explanation
  | .other text => text

inductive Error
  | bind (reason : String)
  | invalidKey (size : Nat)
  | invalidProtocol (flaw : ProtocolFlaw)
  | invalidAddress (address : String) (reason : Address.Reason)
  | invalidPeer (peer : String)
  | dialFailed (reason : String)
  | timeout (after : Duration)
  | notConnected
  | connectionLost (reason : String)
  | unknownProtocol (protocol : String)
  | stream (reason : String)
  | tooLarge (limit : Nat)
  | framing (flaw : FrameFlaw)
  deriving DecidableEq, Repr

namespace Error

def message : Error → String
  | .bind reason => "failed to bind endpoint: " ++ reason
  | .invalidKey size => "PSK must be exactly 32 bytes, got " ++ toString size ++ " bytes"
  | .invalidProtocol flaw => "invalid protocol identifier: " ++ flaw.message
  | .invalidAddress address reason => "invalid address `" ++ address ++ "`: " ++ reason.message
  | .invalidPeer peer => "invalid peer id `" ++ peer ++ "`"
  | .dialFailed reason => "dial failed: " ++ reason
  | .timeout after => "timeout after " ++ after.text
  | .notConnected => "no connection to the node"
  | .connectionLost reason => "connection lost: " ++ reason
  | .unknownProtocol protocol => "protocol not registered: " ++ protocol
  | .stream reason => "stream error: " ++ reason
  | .tooLarge limit => "response exceeds " ++ toString limit ++ " bytes"
  | .framing flaw => "framing error: " ++ flaw.message

/-- Whether an error says that the connection itself is gone. -/
def endsConnection : Error → Bool
  | .connectionLost _ => true
  | .notConnected => true
  | _ => false

end Error

end Link

end NodeLink
