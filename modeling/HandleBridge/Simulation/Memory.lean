import HandleBridge.Native.EntryPoints
import HandleBridge.Simulation.Files
import HandleBridge.Text.CString

/-!
# Simulation/Memory — the objects of a simulated native library

The simulation stands in for a native library and needs no server.  Its jobs are driven by the clock:
a job completes a fixed time after it was started, or earlier when it is cancelled.  `Job.completion`
says when and how, and everything that a job answers follows from it.

Objects live in tables and are never moved, so a handle is a place in a table.  A probe counts the
disposals of the objects that were started with it.
-/

namespace HandleBridge.Simulation

/-- A counter of disposals, by its place among the probes. -/
structure Probe where
  index : Nat
  deriving DecidableEq, Repr

/-! ## Contexts -/

/-- What a server says about a failure. -/
structure ServerDetail where
  categoryNumber : Int32
  categoryText : String
  codeNumber : Int32
  structuredCode : String
  deriving DecidableEq, Repr

/-- A failed call, as its context keeps it. -/
structure Report where
  status : Status
  message : String
  server : Option ServerDetail
  deriving DecidableEq, Repr

/-- A context: the report of the latest call that was given it, if that call failed. -/
structure Context where
  latest : Option Report
  probe : Option Probe
  deriving DecidableEq, Repr, Inhabited

/-! ## Jobs -/

/-- What a job produces. -/
inductive Outcome where
  /-- A value object with a payload. -/
  | value (payload : Int)
  /-- No value. -/
  | void
  /-- The server refuses the request. -/
  | serverError (message : String) (detail : ServerDetail)
  deriving DecidableEq, Repr, Inhabited

/-- The blueprint of a job. -/
structure JobSpec where
  name : String
  /-- How long the job takes; none if it completes only when it is cancelled. -/
  readyAfter : Option Nat
  outcome : Outcome
  /-- How long a cancel request takes. -/
  cancelLatency : Nat
  jobProbe : Option Probe
  valueProbe : Option Probe
  cancelProbe : Option Probe
  deriving DecidableEq, Repr, Inhabited

/-- A job. -/
structure Job where
  spec : JobSpec
  /-- When the job was started. -/
  created : Nat
  /-- Was the result consumed? -/
  taken : Bool
  /-- Was the job closed by its own entry point? -/
  closed : Bool
  /-- When the first cancel request takes effect. -/
  cancelAt : Option Nat
  deriving DecidableEq, Repr, Inhabited

/-- How a job completes. -/
inductive Ending where
  | finished
  | cancelled
  deriving DecidableEq, Repr, Inhabited

namespace Job

/-- The name under which the job is reported: zero characters cannot be passed on. -/
def label (j : Job) : String := CString.blankZeros j.spec.name

/-- When the job is ready if nobody cancels it. -/
def readyAt (j : Job) : Option Nat := j.spec.readyAfter.map (j.created + ·)

/-- When the job completes, and how.  A cancel request wins only if it takes effect strictly before
the job is ready. -/
def completion (j : Job) : Option (Nat × Ending) :=
  match j.readyAt, j.cancelAt with
  | some ready, some cancel =>
    if cancel < ready then some (cancel, .cancelled) else some (ready, .finished)
  | some ready, none => some (ready, .finished)
  | none, some cancel => some (cancel, .cancelled)
  | none, none => none

/-- When the job completes. -/
def due (j : Job) : Option Nat := j.completion.map (·.1)

/-- Has an instant come? -/
def hasCome (due : Option Nat) (now : Nat) : Bool :=
  match due with
  | some instant => instant ≤ now
  | none => false

/-- Has the job completed? -/
def isDone (j : Job) (now : Nat) : Bool := hasCome j.due now

/-- The job with a cancel request made; only the first one counts. -/
def requestCancel (j : Job) (now : Nat) : Job :=
  { j with cancelAt := some (j.cancelAt.getD (now + j.spec.cancelLatency)) }

/-- The job with a cancel request made unless it has completed. -/
def cancelUnlessDone (j : Job) (now : Nat) : Job :=
  if j.isDone now then j else j.requestCancel now

end Job

/-- The object that tracks a cancel request. -/
structure CancelJob where
  doneAt : Nat
  probe : Option Probe
  deriving DecidableEq, Repr, Inhabited

/-- The object that a job produced. -/
structure Value where
  payload : Int
  probe : Option Probe
  deriving DecidableEq, Repr, Inhabited

/-! ## Waiting -/

/-- Waits for an instant, no longer than a limit: whether the instant came, and the clock
afterwards. -/
def await (due : Option Nat) (limit : Option Nat) (now : Nat) : Bool × Nat :=
  match due, limit with
  | some instant, none => (true, max instant now)
  | some instant, some limit =>
    if instant ≤ now then (true, now)
    else if instant - now ≤ limit then (true, instant)
    else (false, now + limit)
  | none, some limit => (false, now + limit)
  | none, none => (false, now)

/-! ## Faults -/

/-- A fault of one entry point: what it answers instead. -/
structure Fault where
  status : Status
  /-- Does the entry point do its work before it answers? -/
  callFirst : Bool
  text : Option (List UInt8)
  number : Option Int
  flag : Option Bool
  /-- The number of calls after which the fault goes away. -/
  remaining : Option Nat
  deriving DecidableEq, Repr

/-! ## The logger -/

/-- The settings that the logger was initialized with. -/
structure LoggerSettings where
  filters : String
  file : Option String
  deriving DecidableEq, Repr

end Simulation

/-- The memory of the simulated library. -/
structure Simulation where
  contexts : List Simulation.Context
  jobs : List Simulation.Job
  cancelJobs : List Simulation.CancelJob
  values : List Simulation.Value
  /-- How often the objects of each probe were disposed. -/
  probes : List Nat
  logger : Option Simulation.LoggerSettings
  files : Files
  faults : List (Symbol × Simulation.Fault)
  deriving Inhabited

namespace Simulation

/-- No object yet. -/
def empty (files : Files) : Simulation := ⟨[], [], [], [], [], none, files, []⟩

/-! ## The objects behind handles -/

/-- The context behind a handle. -/
def context? (s : Simulation) (h : Option Handle) : Option Context :=
  h.bind fun h => s.contexts[h.index]?

/-- The job behind a handle. -/
def job? (s : Simulation) (h : Option Handle) : Option Job := h.bind fun h => s.jobs[h.index]?

/-- The cancel job behind a handle. -/
def cancelJob? (s : Simulation) (h : Option Handle) : Option CancelJob :=
  h.bind fun h => s.cancelJobs[h.index]?

/-- The value behind a handle. -/
def value? (s : Simulation) (h : Option Handle) : Option Value :=
  h.bind fun h => s.values[h.index]?

/-- The payload of the value behind a handle. -/
def payload? (s : Simulation) (h : Handle) : Option Int := (s.value? (some h)).map (·.payload)

/-! ## Changing objects -/

/-- A new context. -/
def newContext (s : Simulation) (probe : Option Probe) : Handle × Simulation :=
  (.ofIndex s.contexts.length, { s with contexts := s.contexts ++ [⟨none, probe⟩] })

/-- A new job, started now. -/
def newJob (s : Simulation) (spec : JobSpec) (now : Nat) : Handle × Simulation :=
  (.ofIndex s.jobs.length, { s with jobs := s.jobs ++ [⟨spec, now, false, false, none⟩] })

/-- A new cancel job. -/
def newCancelJob (s : Simulation) (c : CancelJob) : Handle × Simulation :=
  (.ofIndex s.cancelJobs.length, { s with cancelJobs := s.cancelJobs ++ [c] })

/-- A new value. -/
def newValue (s : Simulation) (v : Value) : Handle × Simulation :=
  (.ofIndex s.values.length, { s with values := s.values ++ [v] })

/-- A new probe. -/
def newProbe (s : Simulation) : Probe × Simulation :=
  (⟨s.probes.length⟩, { s with probes := s.probes ++ [0] })

/-- The job behind a handle, changed. -/
def setJob (s : Simulation) (h : Handle) (j : Job) : Simulation :=
  { s with jobs := s.jobs.set h.index j }

/-- The context behind a handle, with the report of a call that was given it. -/
def report (s : Simulation) (ctx : Option Handle) (latest : Option Report) : Simulation :=
  match ctx with
  | none => s
  | some h => { s with contexts := s.contexts.modify h.index fun c => { c with latest } }

/-- One more disposal counted. -/
def count (s : Simulation) : Option Probe → Simulation
  | none => s
  | some p => { s with probes := s.probes.modify p.index (· + 1) }

/-- One call of a faulted entry point used up. -/
def spend (s : Simulation) (symbol : Symbol) : Simulation :=
  { s with faults := s.faults.filterMap fun e =>
      if e.1 = symbol then
        match e.2.remaining with
        | none => some e
        | some n => if n ≤ 1 then none else some (e.1, { e.2 with remaining := some (n - 1) })
      else some e }

/-- An entry point given a fault, or freed of its fault. -/
def setFault (s : Simulation) (symbol : Symbol) (fault : Option Fault) : Simulation :=
  let others := s.faults.filter (·.1 ≠ symbol)
  match fault with
  | none => { s with faults := others }
  | some fault => { s with faults := (symbol, fault) :: others }

end Simulation

end HandleBridge
