import NodeLink.Profile.Basic
import NodeLink.Json.Reader
import NodeLink.Json.Writer
/-!
# Credentials

What a node hands out for a client to sign in with, as one JSON object.  Two
spellings of the names of its string members are in use; the first one that
holds a text with something in it counts.  A credential becomes a profile by
putting its first three addresses into the slots of the profile in order.
-/

namespace NodeLink

open NodeLink.Json NodeLink.Text

structure Credential where
  peer : String
  addresses : List (Option String)
  token : String
  key : Option String
  expires : Option Nat
  deriving DecidableEq, Repr

namespace Credential

inductive Field
  | peer
  | token
  | key
  deriving DecidableEq, Repr

def Field.name : Field → String
  | .peer => "peerId"
  | .token => "sessionToken"
  | .key => "psk"

def Field.spellings : Field → List String
  | .peer => ["peerId", "PeerId"]
  | .token => ["sessionToken", "SessionToken"]
  | .key => ["psk", "PSK"]

inductive Error
  | missing (field : Field)
  | notJson (fault : Fault)
  | notObject
  | notString (name : String) (value : Value)
  | addressesNotArray

def Error.message : Error → String
  | .missing field => "missing field: " ++ field.name
  | .notJson fault => "malformed credential payload: " ++ fault.text
  | .notObject => "malformed credential payload: expected a JSON object"
  | .notString name value =>
    "malformed credential payload: field `" ++ name ++ "` must be a string, got " ++ value.text
  | .addressesNotArray => "malformed credential payload: `addresses` must be an array"

/-- The first text with something in it under one of the names, trimmed.  A
value that is neither text nor null is an error where it is reached. -/
def lookUp (members : List (String × Value)) : List String → Except Error (Option String)
  | [] => .ok none
  | name :: names =>
    match Members.find? members name with
    | none => lookUp members names
    | some .null => lookUp members names
    | some (.string text) =>
      if isBlankText text then lookUp members names else .ok (some (trim text))
    | some value => .error (.notString name value)

def required (members : List (String × Value)) (field : Field) : Except Error String := do
  match ← lookUp members field.spellings with
  | some text => .ok text
  | none => .error (.missing field)

/-- An entry that is no text, or a blank one, keeps its place. -/
def addressOf : Value → Option String
  | .string text => if isBlankText text then none else some (trim text)
  | _ => none

def addressesOf : Option Value → Except Error (List (Option String))
  | none => .ok []
  | some .null => .ok []
  | some (.array items) => .ok (items.map addressOf)
  | some _ => .error .addressesNotArray

def expiryOf : Option Value → Option Nat
  | some (.number (.integer (.ofNat seconds))) => some seconds
  | _ => none

def ofMembers (members : List (String × Value)) : Except Error Credential := do
  let peer ← required members .peer
  let token ← required members .token
  let key ← lookUp members Field.key.spellings
  let addresses ← addressesOf (Members.find? members "addresses")
  return { peer, addresses, token, key, expires := expiryOf (Members.find? members "expires") }

def decode (text : String) : Except Error Credential :=
  match Json.readText text with
  | .error fault => .error (.notJson fault)
  | .ok (.object members) => ofMembers members
  | .ok _ => .error .notObject

def networkKey? (credential : Credential) : Option NetworkKey :=
  credential.key.bind NetworkKey.ofText?

def hasExpired (credential : Credential) (now : Nat) : Bool :=
  match credential.expires with
  | none => false
  | some seconds => seconds < now

def profile (credential : Credential) : Profile :=
  { Profile.of credential.peer credential.token with
    lan := credential.addresses[0]?.join
    remote := credential.addresses[1]?.join
    relay := credential.addresses[2]?.join
    key := credential.networkKey? }

def toProfile (credential : Credential) : Except Profile.Flaw Profile :=
  credential.profile.check

def redacted (credential : Credential) : String :=
  let hidden := Quoted.quote "<redacted>"
  Quoted.record "CredentialPayload"
    [ ("peer_id", Quoted.quote credential.peer),
      ("addresses", Quoted.list (credential.addresses.map fun address =>
        Quoted.optional (address.map Quoted.quote))),
      ("session_token", hidden),
      ("psk", Quoted.optional (credential.key.map fun _ => hidden)),
      ("expires", Quoted.optional (credential.expires.map toString)) ]

end Credential

end NodeLink
