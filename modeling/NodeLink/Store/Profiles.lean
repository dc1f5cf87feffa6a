import NodeLink.Store.Basic
import NodeLink.Profile.Stored
/-!
# Keeping a profile

One profile is kept in a store, as its JSON text under a fixed key.  Loading
never fails: whatever keeps the stored bytes from being a usable profile means
that there is none.
-/

namespace NodeLink.Store

def profileKey : String := "node_config"

def save (store : Store) (profile : Profile) : Store × Except FileFault Unit :=
  store.put profileKey (Text.Utf8.encode profile.stored)

def profileOf? (bytes : List UInt8) : Option Profile :=
  (Profile.ofStoredBytes? bytes).filter fun profile => profile.flaw?.isNone

def load (store : Store) : Option Profile :=
  match store.get profileKey with
  | .ok (some bytes) => profileOf? bytes
  | _ => none

def clear (store : Store) : Store × Except FileFault Unit :=
  store.remove profileKey

def isSaved (store : Store) : Bool :=
  store.contains profileKey

end NodeLink.Store
