import NodeLink.Exchange.Items
import NodeLink.Exchange.Reply
import NodeLink.Session.Lifecycle
/-!
# Calls on a node

What a client asks of a node over a session.  Each call is one request to one
service; a reply that cannot be read counts as one that holds nothing, and only
an error that the reply signals makes a call fail that was answered.
-/

namespace NodeLink.Exchange

open NodeLink.Json

def usualFeedLimit : Nat := 20

inductive Inquiry
  | feed (limit : Nat)
  | post (content : String)
  | notifications
  | messages
  deriving DecidableEq, Repr

namespace Inquiry

def service : Inquiry → Service
  | .feed _ => .timeline
  | .post _ => .post
  | .notifications => .notifications
  | .messages => .messages

def body : Inquiry → Value
  | .feed limit => .object [("limit", .ofNat limit)]
  | .post content => .object [("content", .string content)]
  | .notifications => .object []
  | .messages => .object []

def payload (inquiry : Inquiry) : List UInt8 :=
  Text.Utf8.encode inquiry.body.write

end Inquiry

inductive Answer
  | items (listing : Listing) (items : List Item)
  | created (id : Option String)
  deriving DecidableEq, Repr

def newId? (reply : Value) : Option String :=
  match reply.member? "id" with
  | some (.string id) => if id = "" then none else some id
  | some (.number n) => some (String.ofList n.text)
  | _ => none

def readList (listing : Listing) (reply? : Option Value) : Answer :=
  .items listing (reply?.elim [] listing.read)

def Inquiry.read (inquiry : Inquiry) (reply? : Option Value) : Answer :=
  match inquiry with
  | .feed _ => readList .feed reply?
  | .post _ => .created (reply?.bind newId?)
  | .notifications => readList .notifications reply?
  | .messages => readList .messages reply?

def ask (session : Session) (inquiry : Inquiry) : Session × Except Session.Error Answer :=
  match session.send inquiry.service inquiry.payload with
  | (session, .error error) => (session, .error error)
  | (session, .ok body) =>
    match interpret body with
    | .error message => (session, .error (.remote message))
    | .ok reply? => (session, .ok (inquiry.read reply?))

end NodeLink.Exchange
