import NodeLink.Profile.Basic
import NodeLink.Json.Reader
import NodeLink.Json.Writer
/-!
# Stored profiles

The JSON text in which a profile is kept.  Writing gives one object with all
members in a fixed order.  Reading takes the members in any order, each at most
once, lets those with a default be absent and skims all others; it also takes
the values alone as an array in the order of writing.
-/

namespace NodeLink

open NodeLink.Json NodeLink.Text

namespace Profile

def memberNames : List String :=
  [ "peerId", "lanAddress", "remoteAddress", "relayAddress", "sessionToken", "psk",
    "useRelay", "bootstrapNodes" ]

def toJson (profile : Profile) : Value :=
  .object
    [ ("peerId", .string profile.peer),
      ("lanAddress", .ofText? profile.lan),
      ("remoteAddress", .ofText? profile.remote),
      ("relayAddress", .ofText? profile.relay),
      ("sessionToken", .string profile.token),
      ("psk", .ofText? (profile.key.map NetworkKey.text)),
      ("useRelay", .bool profile.preferRelay),
      ("bootstrapNodes", .array (profile.bootstrap.map Value.string)) ]

def stored (profile : Profile) : List Char :=
  profile.toJson.write

def textOf? : Value → Option String
  | .string text => some text
  | _ => none

def optionalTextOf? : Value → Option (Option String)
  | .null => some none
  | .string text => some (some text)
  | _ => none

/-- A key in padded base64, blank at most on the outside, or null.  Here a key
may be empty. -/
def keyOf? : Value → Option (Option NetworkKey)
  | .null => some none
  | .string text => (Base64.decode (trimmed text.toList)).map fun bytes => some ⟨bytes⟩
  | _ => none

def flagOf? : Value → Option Bool
  | .bool b => some b
  | _ => none

def textsOf? : Value → Option (List String)
  | .array items => items.mapM textOf?
  | _ => none

structure Given where
  peer : Option Value
  lan : Option Value
  remote : Option Value
  relay : Option Value
  token : Option Value
  key : Option Value
  preferRelay : Option Value
  bootstrap : Option Value

def ofGiven? (given : Given) : Option Profile := do
  let peer ← given.peer.bind textOf?
  let lan ← optionalTextOf? (given.lan.getD .null)
  let remote ← optionalTextOf? (given.remote.getD .null)
  let relay ← optionalTextOf? (given.relay.getD .null)
  let token ← given.token.bind textOf?
  let key ← keyOf? (given.key.getD .null)
  let preferRelay ← flagOf? (given.preferRelay.getD (.bool false))
  let bootstrap ← match given.bootstrap with
    | none => some defaultBootstrap
    | some value => textsOf? value
  return { peer, lan, remote, relay, token, key, preferRelay, bootstrap }

def only? (members : List (String × Value)) (name : String) : Option Value :=
  match members.filter (·.1 = name) with
  | [member] => some member.2
  | _ => none

def repeatsName (members : List (String × Value)) : Bool :=
  memberNames.any fun name => 1 < (members.filter (·.1 = name)).length

def givenByName (members : List (String × Value)) : Given :=
  { peer := only? members "peerId"
    lan := only? members "lanAddress"
    remote := only? members "remoteAddress"
    relay := only? members "relayAddress"
    token := only? members "sessionToken"
    key := only? members "psk"
    preferRelay := only? members "useRelay"
    bootstrap := only? members "bootstrapNodes" }

def givenByPlace (items : List Value) : Given :=
  { peer := items[0]?, lan := items[1]?, remote := items[2]?, relay := items[3]?
    token := items[4]?, key := items[5]?, preferRelay := items[6]?, bootstrap := items[7]? }

def ofJson? : Value → Option Profile
  | .object members => if repeatsName members then none else ofGiven? (givenByName members)
  | .array items => if 8 < items.length then none else ofGiven? (givenByPlace items)
  | _ => none

def isMemberName (name : String) : Bool :=
  memberNames.contains name

def ofStored? (text : List Char) : Option Profile :=
  (Reader.readKnowing isMemberName text).toOption.bind ofJson?

def ofStoredBytes? (bytes : List UInt8) : Option Profile :=
  (Reader.readBytesKnowing isMemberName bytes).toOption.bind ofJson?

end Profile

end NodeLink
