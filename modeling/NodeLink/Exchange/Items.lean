import NodeLink.Json.Value
/-!
# Items

The lists a node keeps for its client, and their items.  The items of the three
lists differ in one text only, which is the author of a post, the kind of a
notification or the sender of a message.  An item is read from an object, or
from an array of its members in order; what is missing is blank, and what is
unknown is skipped.
-/

namespace NodeLink.Exchange

open NodeLink.Json

inductive Listing
  | feed
  | notifications
  | messages
  deriving DecidableEq, Repr

def Listing.member : Listing → String
  | .feed => "items"
  | .notifications => "notifications"
  | .messages => "messages"

def Listing.tagMember : Listing → String
  | .feed => "author"
  | .notifications => "type"
  | .messages => "from"

structure Item where
  id : String
  tag : String
  content : String
  timestamp : Int
  deriving DecidableEq, Repr

def textOf? : Option Value → Option String
  | none => some ""
  | some (.string text) => some text
  | some _ => none

def leastTimestamp : Int := -Nat.pow 2 63

def greatestTimestamp : Int := Nat.pow 2 63 - 1

def timestampOf? : Option Value → Option Int
  | none => some 0
  | some (.number (.integer n)) =>
    if leastTimestamp ≤ n ∧ n ≤ greatestTimestamp then some n else none
  | some _ => none

namespace Item

def ofParts? (id tag content timestamp : Option Value) : Option Item := do
  return {
    id := ← textOf? id
    tag := ← textOf? tag
    content := ← textOf? content
    timestamp := ← timestampOf? timestamp }

def ofJson? (listing : Listing) (value : Value) : Option Item :=
  match value with
  | .object _ =>
    ofParts? (value.member? "id") (value.member? listing.tagMember) (value.member? "content")
      (value.member? "timestamp")
  | .array [] => ofParts? none none none none
  | .array [id] => ofParts? id none none none
  | .array [id, tag] => ofParts? id tag none none
  | .array [id, tag, content] => ofParts? id tag content none
  | .array [id, tag, content, timestamp] => ofParts? id tag content timestamp
  | _ => none

def toJson (listing : Listing) (item : Item) : Value :=
  .object
    [ ("id", .string item.id), (listing.tagMember, .string item.tag),
      ("content", .string item.content), ("timestamp", .ofInt item.timestamp) ]

end Item

/-- The items of a reply, which is the list itself or an object that holds it.
One item that cannot be read spoils the list. -/
def Listing.read (listing : Listing) (reply : Value) : List Item :=
  let items := match reply with
    | .array items => items
    | _ =>
      match reply.member? listing.member with
      | some (.array items) => items
      | _ => []
  (items.mapM (Item.ofJson? listing)).getD []

end NodeLink.Exchange
