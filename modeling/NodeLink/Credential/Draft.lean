import NodeLink.Json.Reader
import NodeLink.Json.Writer
import NodeLink.Text.Base64
/-!
# Drafting credentials

Credential texts are put together member by member, under any spelling, and
come out as one JSON object with its members sorted by name.
-/

namespace NodeLink.Credential

open NodeLink.Json NodeLink.Text

structure Draft where
  members : List (String × Value)

namespace Draft

def empty : Draft := ⟨[]⟩

def set (draft : Draft) (name : String) (value : Value) : Draft :=
  ⟨Members.insert name value draft.members⟩

def peer (draft : Draft) (text : String) : Draft :=
  draft.set "peerId" (.string text)

def token (draft : Draft) (text : String) : Draft :=
  draft.set "sessionToken" (.string text)

def addresses (draft : Draft) (texts : List String) : Draft :=
  draft.set "addresses" (.array (texts.map Value.string))

def key (draft : Draft) (bytes : List UInt8) : Draft :=
  draft.set "psk" (.string (Base64.encodeText bytes))

def text (draft : Draft) : String :=
  (Value.object draft.members).text

end Draft

end NodeLink.Credential
