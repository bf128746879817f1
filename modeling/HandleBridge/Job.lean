import HandleBridge.Cancellation

/-!
# Job — native operations in flight

The result of a job can be taken once.  The first take that the native library lets through marks the
job as taken and hands the value to the job's converter; every later one is refused without a word to
the library.  A take that ran into its limit, or found the result not ready, leaves everything as it
was.
-/

namespace HandleBridge

variable {σ : Type}

/-- The result of a job on its way to the converter: its value, if it has one, the manager that is to
own it, and where it came from. -/
structure TakenValue where
  handle : Option Handle
  manager : Manager
  origin : LibraryOrigin
  job : String
  deriving DecidableEq, Repr

/-- What a take gives. -/
inductive Yield where
  | nothing
  | resource (r : Resource)
  | description (value : TakenValue)
  deriving DecidableEq, Repr

namespace TakenValue

/-- A value that nobody adopted is lost, which is worth a remark. -/
def abandon (value : TakenValue) : Action σ Unit :=
  if value.handle.isSome then .remark (.valueDropped value.job) else pure ()

/-- What is made of the result. -/
def convert (value : TakenValue) : Converter σ → Action σ Yield
  | .void => do
    value.abandon
    return .nothing
  | .adopt kind dispose failure =>
    match value.handle with
    | none => .fail (.nullHandle Symbol.jobTake.name)
    | some h => do
      return .resource (← Resource.adopt value.manager h kind (.native none dispose failure))
  | .inspect => do
    value.abandon
    return .description value
  | .reject e => do
    value.abandon
    .fail e

/-- What a taken value shows to people who debug. -/
def debugText (value : TakenValue) (handle : Handle → String) : String :=
  let shown := match value.handle with
    | none => "None"
    | some h => "Some(" ++ handle h ++ ")"
  "TakenValue \x7b handle: " ++ shown ++ ", job: " ++ Quoted.quote value.job ++ " \x7d"

end TakenValue

namespace Job

/-- Puts a job of a library under management. -/
def adopt (library : Library σ) (m : Manager) (h : Handle) (converter : Converter σ) :
    Action σ Job := do
  let r ← Resource.adopt m h .job
    (.native (some .jobDispose) (fun h => library.entry.jobDispose (some h)) none)
  let j : Job := ⟨← .read (·.jobs.size)⟩
  .update (·.addJob ⟨r, library, converter, false, none⟩)
  return j

/-- The resource of a job. -/
def resource (j : Job) : Action σ Resource := .read fun b => (b.job j).resource

/-- Was the result consumed? -/
def isTaken (b : Bridge σ) (j : Job) : Bool := (b.job j).taken

/-! ## The name -/

/-- Looks the name up. -/
def lookUpName (j : Job) (ctx : Option Context) : Action σ String := do
  let s ← .read (·.job j)
  let out ← s.resource.allocate [.ofString none]
  let name ← s.resource.withHandle fun h =>
    callNative ctx .jobName fun c =>
      invokeInto out .ofString .jobName (some h) (s.library.entry.jobName c (some h) true)
  let name := (readText name.join).getD ""
  .update (·.modifyJob j (·.remember name))
  return name

/-- The name of a job, which is looked up once. -/
def name (j : Job) (ctx : Option Context) : Action σ String := do
  match (← .read (·.job j)).name with
  | some name => return name
  | none => j.lookUpName ctx

/-- The name of a job, or a question mark if it cannot be looked up. -/
def label (j : Job) (ctx : Option Context) : Action σ String := do
  match ← .attempt (j.name ctx) with
  | .ok name => return name
  | .error _ => return "?"

/-! ## Waiting and cancelling -/

/-- Waits for the job to complete, no longer than a limit. -/
def wait (j : Job) (ctx : Option Context) (limit : Nat) : Action σ Bool := do
  let s ← .read (·.job j)
  s.resource.query ctx .jobWait fun ctx h =>
    s.library.entry.jobWait ctx h (Duration.saturate limit) true

/-- Has the job completed? -/
def isDone (j : Job) (ctx : Option Context) : Action σ Bool := do
  let s ← .read (·.job j)
  s.resource.query ctx .jobIsDone fun ctx h => s.library.entry.jobIsDone ctx h true

/-- Cancels the job, waiting for as long as it needs. -/
def cancel (j : Job) (ctx : Option Context) : Action σ Bool := do
  let s ← .read (·.job j)
  s.resource.query ctx .jobCancel fun ctx h => s.library.entry.jobCancel ctx h true

/-- Cancels the job, waiting no longer than a limit. -/
def cancelFor (j : Job) (ctx : Option Context) (limit : Nat) : Action σ Bool := do
  let s ← .read (·.job j)
  s.resource.query ctx .jobCancelFor fun ctx h =>
    s.library.entry.jobCancelFor ctx h (Duration.saturate limit) true

/-- Requests that the job be cancelled.  There may be nothing to track. -/
def cancelAsync (j : Job) (ctx : Option Context) : Action σ (Option Cancellation) := do
  let s ← .read (·.job j)
  let m := (← .read (·.resource s.resource)).manager
  let out ← m.allocate [.ofHandle none]
  let tracker ← s.resource.withHandle fun h =>
    callNative ctx .jobCancelAsync fun c =>
      invokeInto out .ofHandle .jobCancelAsync (some h)
        (s.library.entry.jobCancelAsync c (some h) true)
  match tracker with
  | none => return none
  | some h => some <$> Cancellation.adopt s.library m h

/-! ## Taking the result -/

/-- What a take found. -/
inductive Take where
  | alreadyTaken
  | notReady
  | taken (value : Option Handle)
  deriving DecidableEq, Repr

/-- Asks the library for the result; it may say that the result is not ready. -/
def takeNatively (s : Job.State σ) (ctx : Option Context) (h : Handle) (valueOut readyOut : Buffer) :
    TakeMode → Action σ (Option (Option Handle))
  | .blocking =>
    some <$> callNative ctx .jobTake fun c =>
      invokeInto valueOut .ofHandle .jobTake (some h) (s.library.entry.jobTake c (some h) true)
  | .bounded limit =>
    some <$> callNative ctx .jobTakeFor fun c =>
      invokeInto valueOut .ofHandle .jobTakeFor (some h)
        (s.library.entry.jobTakeFor c (some h) (Duration.saturate limit) true)
  | .ifReady => do
    let (ready, value) ← callNative ctx .jobTakeIfReady fun c => do
      let answer ← invoke .jobTakeIfReady (some h)
        (s.library.entry.jobTakeIfReady c (some h) true true)
      Manager.put readyOut 0 (.flag (answer.written.1.getD false))
      Manager.put valueOut 0 (.ofHandle answer.written.2)
      return answer
    return if ready.getD false then some value else none

/-- Takes the result from the library, unless it was taken before. -/
def takeOnce (j : Job) (ctx : Option Context) (mode : TakeMode) : Action σ Take := do
  let s ← .read (·.job j)
  let m := (← .read (·.resource s.resource)).manager
  let valueOut ← m.allocate [.ofHandle none]
  let readyOut ← m.allocate [.flag false]
  s.resource.withHandle fun h => do
    if s.taken then return .alreadyTaken
    match ← takeNatively s ctx h valueOut readyOut mode with
    | none => return .notReady
    | some value =>
      .update (·.modifyJob j (·.markTaken))
      return .taken value

/-- Hands a value to the converter of a job. -/
def convert (j : Job) (value : TakenValue) : Action σ Yield := do
  .note (.converted j value.handle)
  value.convert (← .read (·.job j)).converter

/-- Takes the result; nothing if it is not ready. -/
def take? (j : Job) (ctx : Option Context) (mode : TakeMode) : Action σ (Option Yield) := do
  let s ← .read (·.job j)
  let resource ← .read (·.resource s.resource)
  match ← j.takeOnce ctx mode with
  | .alreadyTaken => .fail (.alreadyTaken (← j.label ctx))
  | .notReady =>
    .remark (.resultNotReady resource.id)
    return none
  | .taken value =>
    .remark (.resultTaken resource.id mode value.isSome)
    let label ← j.label ctx
    some <$> j.convert ⟨value, resource.manager, s.library.origin, label⟩

/-- The result of a take that waits for it, which must be there. -/
def takeExpecting (symbol : Symbol) (take : Action σ (Option Yield)) : Action σ Yield := do
  match ← take with
  | some y => return y
  | none => .fail (.nullHandle symbol.name)

/-- Takes the result, waiting for as long as it needs. -/
def take (j : Job) (ctx : Option Context) : Action σ Yield :=
  takeExpecting .jobTake (j.take? ctx .blocking)

/-- Takes the result, waiting no longer than a limit. -/
def takeFor (j : Job) (ctx : Option Context) (limit : Nat) : Action σ Yield :=
  takeExpecting .jobTakeFor (j.take? ctx (.bounded limit))

/-- Takes the result if it is ready. -/
def takeIfReady (j : Job) (ctx : Option Context) : Action σ (Option Yield) := j.take? ctx .ifReady

/-! ## Closing -/

/-- Closes a job in the library, then releases it whatever the library said. -/
def close (j : Job) (ctx : Option Context) : Action σ Unit := do
  let s ← .read (·.job j)
  let resource ← .read (·.resource s.resource)
  if resource.closed then return
  let closed ← .attempt <| s.resource.withHandle fun h =>
    callNative ctx .jobClose fun c =>
      invoke .jobClose (some h) (s.library.entry.jobClose c (some h))
  let disposed ← .attempt s.resource.close
  .ofExcept closed
  .ofExcept disposed

/-- Ends the wrapper of a job, which releases it without closing it in the library. -/
def drop (j : Job) : Action σ Unit := do (← j.resource).drop

/-- What a job shows to people who debug. -/
def debugText (s : Job.State σ) (resource : String) : String :=
  "AsyncJob \x7b resource: " ++ resource ++ ", name: " ++ Quoted.quoteOption s.name ++
    ", taken: " ++ toString s.taken ++ " \x7d"

end Job

end HandleBridge
