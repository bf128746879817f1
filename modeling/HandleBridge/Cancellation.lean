import HandleBridge.NativeCall

/-!
# Cancellation — wrapped cancel requests

A request to cancel a job is tracked by a native object of its own, which knows when the request takes
effect.
-/

namespace HandleBridge

variable {σ : Type}

/-- Asks an entry point a yes-or-no question about an open resource. -/
def Resource.query (r : Resource) (ctx : Option Context) (symbol : Symbol)
    (call : Option Handle → Option Handle → Call σ (Option Bool)) : Action σ Bool := do
  let out ← r.allocate [.flag false]
  r.withHandle fun h => do
    let answer ← callNative ctx symbol fun c =>
      invokeInto out (fun b => .flag (b.getD false)) symbol (some h) (call c (some h))
    return answer.getD false

namespace Cancellation

/-- Puts a cancel request under management. -/
def adopt (library : Library σ) (m : Manager) (h : Handle) : Action σ Cancellation := do
  let r ← Resource.adopt m h .cancelJob
    (.native (some .cancelJobDispose) (fun h => library.entry.cancelJobDispose (some h)) none)
  let c : Cancellation := ⟨← .read (·.cancellations.size)⟩
  .update (·.addCancellation ⟨r, library⟩)
  return c

/-- The resource of a cancel request. -/
def resource (c : Cancellation) : Action σ Resource :=
  .read fun b => (b.cancellation c).resource

/-- Waits for the request to take effect, no longer than a limit. -/
def wait (c : Cancellation) (ctx : Option Context) (limit : Nat) : Action σ Bool := do
  let s ← .read (·.cancellation c)
  s.resource.query ctx .cancelJobWait fun ctx h =>
    s.library.entry.cancelJobWait ctx h (Duration.saturate limit) true

/-- Has the request taken effect? -/
def isDone (c : Cancellation) (ctx : Option Context) : Action σ Bool := do
  let s ← .read (·.cancellation c)
  s.resource.query ctx .cancelJobIsDone fun ctx h => s.library.entry.cancelJobIsDone ctx h true

/-- Closes the object that tracks the request. -/
def close (c : Cancellation) : Action σ Unit := do (← c.resource).close

/-- Ends the wrapper of a cancel request. -/
def drop (c : Cancellation) : Action σ Unit := do (← c.resource).drop

end Cancellation

end HandleBridge
