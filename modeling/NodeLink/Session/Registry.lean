/-!
# Registries of listeners

Listeners in the order in which they were added, each under a number of its
own that is never given out again.  Notifying goes through the listeners that
are registered when it begins; what they change in the registry counts from the
next time on.
-/

namespace NodeLink.Session

structure Registry (α : Type) where
  next : Nat
  entries : List (Nat × α)
  deriving Repr

namespace Registry

variable {α σ : Type}

def empty : Registry α := ⟨0, []⟩

def add (registry : Registry α) (listener : α) : Registry α × Nat :=
  (⟨registry.next + 1, registry.entries ++ [(registry.next, listener)]⟩, registry.next)

def holds (registry : Registry α) (id : Nat) : Bool :=
  registry.entries.any (·.1 = id)

def remove (registry : Registry α) (id : Nat) : Registry α × Bool :=
  ({ registry with entries := registry.entries.filter (·.1 ≠ id) }, registry.holds id)

def clear (registry : Registry α) : Registry α :=
  { registry with entries := [] }

def notify (registryOf : σ → Registry α) (call : Nat × α → σ → σ) (state : σ) : σ :=
  (registryOf state).entries.foldl (fun state entry => call entry state) state

end Registry

end NodeLink.Session
