import NodeLink.Json.Reader
import NodeLink.Json.Writer
import NodeLink.Text.Blank
/-!
# Replies

How the answer of a node is read.  An object signals an error by its member
`error`; the answer proper may be wrapped as the member `data` of an object, as
a value or as the JSON text of one.  A reply that is not JSON holds nothing.
-/

namespace NodeLink.Exchange

open NodeLink.Json NodeLink.Text

/-- The error that a value signals.  Null, false and blank texts are none; what
is not a text is shown as JSON. -/
def signalled? (value : Value) : Option String :=
  match value.member? "error" with
  | none => none
  | some .null => none
  | some (.bool false) => none
  | some (.string message) => if isBlankText message then none else some message
  | some other => some other.text

/-- The value inside an envelope; an envelope around a text that is not JSON
holds nothing. -/
def unwrap (value : Value) : Option Value :=
  match value.member? "data" with
  | none => some value
  | some (.string text) => (Json.readText text).toOption
  | some inner => some inner

def interpretValue (value : Value) : Except String (Option Value) :=
  match signalled? value with
  | some message => .error message
  | none =>
    match unwrap value with
    | none => .ok none
    | some inner =>
      match signalled? inner with
      | some message => .error message
      | none => .ok (some inner)

def interpret (body : List UInt8) : Except String (Option Value) :=
  match Json.readBytes body with
  | .error _ => .ok none
  | .ok value => interpretValue value

end NodeLink.Exchange
