import HandleBridge.Simulation.Reports

/-!
# Simulation/Jobs — calls on jobs and cancel jobs

Every call checks its target first, then that it may write, then that the job was not closed by its
own entry point.  A take that reaches the completion of a job consumes the result, whether it succeeds
or fails; a take that does not reach it consumes nothing.
-/

namespace HandleBridge.Simulation

variable {α : Type}

/-! ## Checks -/

/-- A local failure, which no server had a part in. -/
def localReport (status : Status) (message : String) : Report := ⟨status, message, none⟩

/-- An argument that must not be null is. -/
def nullArgument (position : Nat) : Report :=
  localReport (.argError (UInt32.ofNat position)) ("arg" ++ toString position ++ " is null")

/-- The job was closed by its own entry point. -/
def closedJob (symbol : Symbol) : Report :=
  localReport .jobAlreadyClosed (symbol.name ++ "() error. job already closed")

/-- A call on the job behind a handle.  A call that is refused writes `nothing`. -/
def onJob (ctx target : Option Handle) (nothing : α) (f : Handle → Job → Call Simulation α) :
    Call Simulation α := fun m =>
  match target, m.native.job? target with
  | some h, some j => f h j m
  | _, _ => refuse ctx (localReport (.argError 1) "job is null") nothing m

/-- A call that must be able to write at a position. -/
def needing (out : Bool) (position : Nat) (ctx : Option Handle) (nothing : α)
    (f : Call Simulation α) : Call Simulation α :=
  if out then f else refuse ctx (nullArgument position) nothing

/-- A call on a job that must not be closed. -/
def onOpenJob (symbol : Symbol) (position : Nat) (ctx target : Option Handle) (out : Bool)
    (nothing : α) (f : Handle → Job → Call Simulation α) : Call Simulation α :=
  onJob ctx target nothing fun h j =>
    needing out position ctx nothing
      (if j.closed then refuse ctx (closedJob symbol) nothing else f h j)

/-! ## Waiting -/

/-- Waits for an instant, no longer than a limit, and goes on with whether it came. -/
def waiting (due : Option Nat) (limit : Option Nat) (f : Bool → Call Simulation α) :
    Call Simulation α := fun m =>
  let (came, clock) := await due limit m.clock
  f came { m with clock }

/-- The name of a job. -/
def jobName (ctx target : Option Handle) (out : Bool) : Call Simulation (Option StringOut) :=
  onJob ctx target none fun _ j =>
    needing out 2 ctx none (accept ctx (some (spelled j.spec.name)))

/-- Waits for a job to complete. -/
def jobWait (ctx target : Option Handle) (limit : Nat) (out : Bool) :
    Call Simulation (Option Bool) :=
  onOpenJob .jobWait 3 ctx target out none fun _ j =>
    waiting j.due (some limit) fun came => accept ctx (some came)

/-- Has a job completed? -/
def jobIsDone (ctx target : Option Handle) (out : Bool) : Call Simulation (Option Bool) :=
  onOpenJob .jobIsDone 2 ctx target out none fun _ j m => accept ctx (some (j.isDone m.clock)) m

/-! ## Taking the result -/

/-- Consumes the result of a completed job, if nobody has. -/
def consume (ctx : Option Handle) (h : Handle) (j : Job) : Call Simulation (Option Handle) :=
  fun m =>
    if j.taken then
      refuse ctx (localReport .clientError ("Job<" ++ j.label ++ "> already taked")) none m
    else
      let m := { m with native := m.native.setJob h { j with taken := true } }
      if j.completion.map (·.2) = some .cancelled then
        refuse ctx (localReport .clientError ("Job<" ++ j.label ++ "> cancelled")) none m
      else
        match j.spec.outcome with
        | .value payload =>
          let (value, native) := m.native.newValue ⟨payload, j.spec.valueProbe⟩
          accept ctx (some value) { m with native }
        | .void => accept ctx none m
        | .serverError message detail =>
          refuse ctx ⟨.serverError, message, some detail⟩ none m

/-- Takes the result of a job, waiting for as long as it needs. -/
def jobTake (ctx target : Option Handle) (out : Bool) : Call Simulation (Option Handle) :=
  onOpenJob .jobTake 2 ctx target out none fun h j =>
    match j.due with
    | none => refuse ctx (localReport .ioError ("Job<" ++ j.label ++ "> lost its session")) none
    | some due => waiting (some due) none fun _ => consume ctx h j

/-- Takes the result of a job, waiting no longer than a limit. -/
def jobTakeFor (ctx target : Option Handle) (limit : Nat) (out : Bool) :
    Call Simulation (Option Handle) :=
  onOpenJob .jobTakeFor 3 ctx target out none fun h j =>
    waiting j.due (some limit) fun came =>
      if came then consume ctx h j
      else refuse ctx (localReport .timeout ("Job<" ++ j.label ++ "> timeout")) none

/-- Takes the result of a job if the job has completed. -/
def jobTakeIfReady (ctx target : Option Handle) (readyOut valueOut : Bool) :
    Call Simulation (Option Bool × Option Handle) :=
  onJob ctx target (none, none) fun h j =>
    needing readyOut 2 ctx (none, none) <| needing valueOut 3 ctx (none, none) <|
      if j.closed then refuse ctx (closedJob .jobTakeIfReady) (some false, none)
      else fun m =>
        if j.isDone m.clock then
          let (a, m) := consume ctx h j m
          (a.map fun value => (some true, value), m)
        else accept ctx (some false, none) m

/-! ## Cancelling -/

/-- Requests that a job be cancelled, unless it has completed, and waits for its completion. -/
def cancelling (ctx : Option Handle) (limit : Option Nat) (h : Handle) (j : Job) :
    Call Simulation (Option Bool) := fun m =>
  let j := j.cancelUnlessDone m.clock
  waiting j.due limit (fun came => accept ctx (some came))
    { m with native := m.native.setJob h j }

/-- Cancels a job, waiting for as long as it needs. -/
def jobCancel (ctx target : Option Handle) (out : Bool) : Call Simulation (Option Bool) :=
  onOpenJob .jobCancel 2 ctx target out none (cancelling ctx none)

/-- Cancels a job, waiting no longer than a limit. -/
def jobCancelFor (ctx target : Option Handle) (limit : Nat) (out : Bool) :
    Call Simulation (Option Bool) :=
  onOpenJob .jobCancelFor 3 ctx target out none (cancelling ctx (some limit))

/-- Requests that a job be cancelled.  There is nothing to track when the job has completed or the
request was made before. -/
def jobCancelAsync (ctx target : Option Handle) (out : Bool) : Call Simulation (Option Handle) :=
  onOpenJob .jobCancelAsync 2 ctx target out none fun h j m =>
    if j.isDone m.clock || j.cancelAt.isSome then accept ctx none m
    else
      let doneAt := m.clock + j.spec.cancelLatency
      let (tracker, native) :=
        (m.native.setJob h { j with cancelAt := some doneAt }).newCancelJob
          ⟨doneAt, j.spec.cancelProbe⟩
      accept ctx (some tracker) { m with native }

/-! ## Closing and disposal -/

/-- Closes a job.  A closed job may be closed again. -/
def jobClose (ctx target : Option Handle) : Call Simulation Unit :=
  onJob ctx target () fun h j m =>
    accept ctx () { m with native := m.native.setJob h { j with closed := true } }

/-- Disposes of a job. -/
def jobDispose (target : Option Handle) (m : Machine Simulation) : Machine Simulation :=
  match m.native.job? target with
  | some j => { m with native := m.native.count j.spec.jobProbe }
  | none => m

/-- Disposes of a value that a job produced.  The library exports no entry point for it. -/
def valueDispose (value : Handle) (m : Machine Simulation) : Machine Simulation :=
  match m.native.value? (some value) with
  | some v => { m with native := m.native.count v.probe }
  | none => m

/-! ## Cancel jobs -/

/-- A call on the cancel job behind a handle, which must be able to write at a position. -/
def onCancelJob (position : Nat) (ctx target : Option Handle) (out : Bool)
    (f : CancelJob → Call Simulation (Option Bool)) : Call Simulation (Option Bool) := fun m =>
  match m.native.cancelJob? target with
  | some c => needing out position ctx none (f c) m
  | none => refuse ctx (localReport (.argError 1) "cancel_job is null") none m

/-- Waits for a cancel request to take effect. -/
def cancelJobWait (ctx target : Option Handle) (limit : Nat) (out : Bool) :
    Call Simulation (Option Bool) :=
  onCancelJob 3 ctx target out fun c =>
    waiting (some c.doneAt) (some limit) fun came => accept ctx (some came)

/-- Has a cancel request taken effect? -/
def cancelJobIsDone (ctx target : Option Handle) (out : Bool) : Call Simulation (Option Bool) :=
  onCancelJob 2 ctx target out fun c m => accept ctx (some (c.doneAt ≤ m.clock)) m

/-- Disposes of a cancel job. -/
def cancelJobDispose (target : Option Handle) (m : Machine Simulation) : Machine Simulation :=
  match m.native.cancelJob? target with
  | some c => { m with native := m.native.count c.probe }
  | none => m

end HandleBridge.Simulation
