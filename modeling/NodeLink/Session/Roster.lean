import NodeLink.Session.Registry
/-!
# Rosters

The listeners of a session, and which of them each name means.  A listener may
do more than take note of a phase: it may remove another one or add one, and
means them by their names.
-/

namespace NodeLink.Session

inductive Reaction
  | observe
  | remove (name : String)
  | add (name : String)
  deriving DecidableEq, Repr

structure Listener where
  name : String
  reaction : Reaction
  deriving DecidableEq, Repr

structure Roster where
  registry : Registry Listener
  names : List (String × Nat)

namespace Roster

def empty : Roster := ⟨.empty, []⟩

def idOf? (roster : Roster) (name : String) : Option Nat :=
  (roster.names.find? (·.1 = name)).map (·.2)

def add (roster : Roster) (listener : Listener) : Roster :=
  let (registry, id) := roster.registry.add listener
  ⟨registry, (listener.name, id) :: roster.names⟩

def remove (roster : Roster) (name : String) : Roster × Bool :=
  match roster.idOf? name with
  | none => (roster, false)
  | some id =>
    let (registry, wasThere) := roster.registry.remove id
    ({ roster with registry }, wasThere)

/-- Adds a plain listener unless its name was ever used. -/
def addUnused (roster : Roster) (name : String) : Roster :=
  match roster.idOf? name with
  | some _ => roster
  | none => roster.add ⟨name, .observe⟩

/-- Removes all listeners; their names stay used. -/
def clear (roster : Roster) : Roster :=
  { roster with registry := roster.registry.clear }

end Roster

end NodeLink.Session
