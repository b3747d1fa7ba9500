import Autoresponder.Store.Basic

/-!
# The shared store

The service uses one store per process. Asking for a store creates it on first use (a
database store when the configuration names `sql` exactly, else an in-memory one) and returns
the same store after that, whatever is asked, until the shared store is reset.
-/

namespace Autoresponder.Store

/-- The shared store slot: the kind and serial number of the store made, if any, and how many
stores were made. -/
structure Shared where
  current : Option (Backend × Nat) := none
  made : Nat := 0
  deriving Inhabited

namespace Shared

/-- The store kind a configuration asks for. -/
def backendOf (name : Value) : Backend :=
  if name.asStr? == some "sql" then .sql else .memory

/-- The shared store, created with the asked kind when there is none. -/
def obtain (s : Shared) (kind : Backend) : (Backend × Nat) × Shared :=
  match s.current with
  | some c => (c, s)
  | none =>
    let c := (kind, s.made + 1)
    (c, { current := some c, made := s.made + 1 })

/-- Forgets the shared store. -/
def reset (s : Shared) : Shared := { s with current := none }

end Shared

end Autoresponder.Store
