import NodeLink.Json.Reader
import NodeLink.Link.Limits
import NodeLink.Link.Error
import NodeLink.Profile.Basic
/-!
# Session errors

Why a session does not come up, and why a request on it has no answer.
-/

namespace NodeLink.Session

inductive SetupFault
  | link (error : Link.Error)
  | limits (error : Link.Limits.Error)
  | shutDown
  deriving DecidableEq, Repr

def SetupFault.message : SetupFault → String
  | .link error => error.message
  | .limits error => error.message
  | .shutDown => "session bridge is shut down"

inductive HandshakeFault
  | link (error : Link.Error)
  | notJson (fault : Json.Fault)
  | rejected (message : String)
  | timedOut (after : Duration)
  deriving DecidableEq, Repr

def HandshakeFault.message : HandshakeFault → String
  | .link error => error.message
  | .notJson fault => "auth response is not JSON: " ++ fault.text
  | .rejected message => "node rejected session: " ++ message
  | .timedOut after => "timed out after " ++ after.text

inductive Error
  | invalidProfile (flaw : Profile.Flaw)
  | noAddress
  | handshake (fault : HandshakeFault)
  | setup (fault : SetupFault)
  | superseded
  | notConnected
  | remote (message : String)
  | dropped (error : Link.Error)
  deriving DecidableEq, Repr

def Error.message : Error → String
  | .invalidProfile flaw => "invalid configuration: " ++ flaw.message
  | .noAddress => "no valid address to reach the node"
  | .handshake fault => "handshake failed: " ++ fault.message
  | .setup fault => "transport initialisation failed: " ++ fault.message
  | .superseded => "connect superseded by a newer lifecycle call"
  | .notConnected => "not connected to the node"
  | .remote message => "node reported an error: " ++ message
  | .dropped error => "transport dropped: " ++ error.message

end NodeLink.Session
