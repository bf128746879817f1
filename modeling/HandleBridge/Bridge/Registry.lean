import HandleBridge.Bridge.Object

/-!
# Bridge/Registry — the live resources of a scope, newest first

Entries are kept by descending number, whatever the order in which they come and go, so a teardown
that walks the registry releases the newest resource first.
-/

namespace HandleBridge

/-- Resources by their numbers. -/
abbrev Registry := List (Nat × Resource)

namespace Registry

/-- The registry with a resource under a number, unless the number is in use. -/
def insert (id : Nat) (r : Resource) : Registry → Registry
  | [] => [(id, r)]
  | e :: rest =>
    if id < e.1 then e :: insert id r rest
    else if id = e.1 then e :: rest
    else (id, r) :: e :: rest

/-- The registry without a number. -/
def erase (registry : Registry) (id : Nat) : Registry := registry.filter (·.1 ≠ id)

/-- Is a number in use? -/
def holds (registry : Registry) (id : Nat) : Bool := registry.any (·.1 = id)

/-- Is this resource the one under a number? -/
def contains (registry : Registry) (id : Nat) (r : Resource) : Bool :=
  registry.lookup id = some r

end Registry

end HandleBridge
