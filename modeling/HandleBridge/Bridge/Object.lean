/-!
# Bridge/Object — the identities of wrapped objects

An object of the bridge is known by its place in the table of its sort and by nothing else: two
objects with the same contents, or the same native handle, are still two objects.
-/

namespace HandleBridge

/-- A manager scope. -/
structure Manager where
  index : Nat
  deriving DecidableEq, Repr, Inhabited

/-- A native object under management. -/
structure Resource where
  index : Nat
  deriving DecidableEq, Repr, Inhabited

/-- A wrapped diagnostic context. -/
structure Context where
  index : Nat
  deriving DecidableEq, Repr, Inhabited

/-- A wrapped job. -/
structure Job where
  index : Nat
  deriving DecidableEq, Repr, Inhabited

/-- A wrapped cancel request. -/
structure Cancellation where
  index : Nat
  deriving DecidableEq, Repr, Inhabited

end HandleBridge
