import NodeLink.Text.Duration
/-!
# Link limits

How long a link may take to be set up and to answer, how much it may answer,
and whether public relays are used.
-/

namespace NodeLink.Link

structure Limits where
  connectTimeout : Duration
  requestTimeout : Duration
  maxResponse : Nat
  publicRelays : Bool
  deriving DecidableEq, Repr

namespace Limits

def leastResponse : Nat := 1024

def standard : Limits :=
  { connectTimeout := .ofSecs 30
    requestTimeout := .ofSecs 30
    maxResponse := 4194304
    publicRelays := true }

inductive Error
  | zeroDuration (field : String)
  | belowMinimum (field : String) (least given : Nat)
  deriving DecidableEq, Repr

def Error.message : Error → String
  | .zeroDuration field => field ++ " must be non-zero"
  | .belowMinimum field least given =>
    field ++ " must be at least " ++ toString least ++ ", got " ++ toString given

def check (limits : Limits) : Except Error Limits :=
  if limits.connectTimeout.isZero then .error (.zeroDuration "connect_timeout")
  else if limits.requestTimeout.isZero then .error (.zeroDuration "request_timeout")
  else if limits.maxResponse < leastResponse then
    .error (.belowMinimum "max_response_bytes" leastResponse limits.maxResponse)
  else .ok limits

end Limits

end NodeLink.Link
