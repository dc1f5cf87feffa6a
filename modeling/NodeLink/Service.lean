/-!
# Services

The services a node offers, each under a name and a protocol identifier.  One
serves to sign in, the others to read and to post.
-/

namespace NodeLink

inductive Service
  | auth
  | timeline
  | post
  | notifications
  | messages
  deriving DecidableEq, Repr

namespace Service

def all : List Service := [.auth, .timeline, .post, .notifications, .messages]

def name : Service → String
  | .auth => "auth"
  | .timeline => "timeline"
  | .post => "post"
  | .notifications => "notifications"
  | .messages => "messages"

def protocol : Service → String
  | .auth => "/warpnet/api/auth/1.0.0"
  | .timeline => "/warpnet/api/timeline/1.0.0"
  | .post => "/warpnet/api/post/1.0.0"
  | .notifications => "/warpnet/api/notifications/1.0.0"
  | .messages => "/warpnet/api/messages/1.0.0"

def protocols : List String := all.map protocol

def ofText? (text : String) : Option Service :=
  all.find? fun service => service.name = text || service.protocol = text

def unknownMessage (text : String) : String :=
  "unknown protocol endpoint `" ++ text ++ "`"

end Service

end NodeLink
