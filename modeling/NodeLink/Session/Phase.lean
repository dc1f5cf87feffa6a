/-!
# Phases of a session

A session is down, on its way up, up, or has failed.  A failed session keeps
its profile and may be connected again.
-/

namespace NodeLink.Session

inductive Phase
  | disconnected
  | connecting
  | connected
  | failed
  deriving DecidableEq, Repr

namespace Phase

def all : List Phase := [.disconnected, .connecting, .connected, .failed]

def initial : Phase := .disconnected

def number : Phase → Nat
  | .disconnected => 0
  | .connecting => 1
  | .connected => 2
  | .failed => 3

def name : Phase → String
  | .disconnected => "disconnected"
  | .connecting => "connecting"
  | .connected => "connected"
  | .failed => "error"

end Phase

end NodeLink.Session
