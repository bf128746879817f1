import HandleBridge.Bridge.Action

/-!
# Resource — a native object that is released exactly once

A resource is adopted by a manager with a handle and a release action.  It is closed by whichever
comes first: its own close, the end of its wrapper, or the end of its manager's scope; closing it runs
the release action, and everything later finds it closed.  Its handle is used only while it is open;
`withHandle` checks that.
-/

namespace HandleBridge.Resource

variable {σ α : Type}

/-! ## Release -/

/-- Runs the release action of a resource. -/
def runReleaser (r : Resource) (s : State σ) : Action σ Unit := do
  .note? (s.releaser.symbol.map fun symbol => .called symbol (some s.handle))
  .run fun m => ((), s.releaser.run s.handle m)
  .note (.released r s.handle s.releaser.failure)
  .ofFailure s.releaser.failure

/-- Closes a resource and says whether it was open.  It is closed and out of its manager's registry
afterwards even if the release action fails. -/
def release (r : Resource) : Action σ Bool := do
  let s ← .read (·.resource r)
  if s.closed then return false
  .update (·.modifyResource r (·.shut))
  let result ← .attempt (r.runReleaser s)
  .update (·.modifyManager s.manager (·.withdraw s.id))
  let now ← .clock
  .remark (.released s.id s.kind (Duration.micros (now - s.created)) result.isOk)
  .ofExcept result
  return true

/-- Closes a resource.  Closing it again does nothing. -/
def close (r : Resource) : Action σ Unit := do
  let _ ← r.release

/-- Ends the wrapper of a resource.  Nobody is left to take a failure, so it is remarked on. -/
def drop (r : Resource) : Action σ Unit := do
  let s ← .read (·.resource r)
  match ← .attempt r.release with
  | .ok true => .remark (.releasedOnDrop s.id s.kind)
  | .ok false => return
  | .error e => .remark (.releaseOnDropFailed s.id s.kind e)

/-! ## Adoption -/

/-- Notes a new resource of a manager, which is given the manager's next number. -/
def enroll (m : Manager) (h : Handle) (kind : Kind) (releaser : Releaser σ) :
    Action σ Resource := do
  let r : Resource := ⟨← .read (·.resources.size)⟩
  let id := (← .read (·.manager m)).nextId
  let now ← .clock
  .update (·.modifyManager m (·.number))
  .update (·.addResource ⟨id, m, kind, h, releaser, now, false⟩)
  return r

/-- Puts a resource of a manager under management.  A closed manager takes none: the native object is
released at once. -/
def adopt (m : Manager) (h : Handle) (kind : Kind) (releaser : Releaser σ) :
    Action σ Resource := do
  let r ← enroll m h kind releaser
  let s ← .read (·.resource r)
  if (← .read (·.manager m)).closed then
    .update (·.modifyResource r (·.shut))
    if let .error e ← .attempt (r.runReleaser s) then
      .remark (.unregisteredReleaseFailed kind e)
    .fail .managerClosed
  else
    .update (·.modifyManager m (·.enter s.id r))
    .remark (.adopted s.id kind)
    return r

/-! ## Use -/

/-- Uses the handle of an open resource. -/
def withHandle (r : Resource) (f : Handle → Action σ α) : Action σ α := do
  let s ← .read (·.resource r)
  if s.closed then .fail (.alreadyClosed s.kind) else f s.handle

/-- The handle of an open resource. -/
def handle (r : Resource) : Action σ Handle := r.withHandle pure

/-- What a resource shows to people who debug. -/
def debugText (s : Resource.State σ) (handle : Handle → String) : String :=
  "ResourceCore \x7b id: " ++ toString s.id ++ ", kind: " ++ s.kind.debugText ++ ", state: " ++
    (if s.closed then "Closed" else "Open(" ++ handle s.handle ++ ")") ++ " \x7d"

end HandleBridge.Resource
