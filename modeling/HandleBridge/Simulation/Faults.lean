import HandleBridge.Simulation.Library

/-!
# Simulation/Faults — a library whose entry points misbehave on demand

A fault sits on one entry point.  While it lasts, the entry point answers with the fault's status and
writes the fault's value, if it has one of the right type; a handle that was written stays.  A fault
may let the entry point do its work first, and may go away after a number of calls.  The dispose entry
points have no faults.
-/

namespace HandleBridge.Simulation

variable {α : Type}

/-- An entry point with the faults set for it.  `override` is what a fault leaves in the
out-parameters in place of what was written. -/
def faulted (symbol : Symbol) (nothing : α) (override : Fault → α → α)
    (call : Call Simulation α) : Call Simulation α := fun m =>
  match m.native.faults.lookup symbol with
  | none => call m
  | some fault =>
    let m := { m with native := m.native.spend symbol }
    let (written, m) :=
      if fault.callFirst then
        let (a, m) := call m
        (a.written, m)
      else (nothing, m)
    (⟨fault.status, override fault written⟩, m)

/-- The value of a fault, if there is somewhere to write it. -/
def overriding (value : Fault → Option α) (out : Bool) (fault : Fault) (written : Option α) :
    Option α :=
  if out then (value fault).or written else written

/-- A fault's text, with the zero byte that ends it. -/
def Fault.string (fault : Fault) : Option StringOut := fault.text.map fun text => some (text ++ [0])

/-- A fault's number as an unsigned word. -/
def Fault.unsigned (fault : Fault) : Option UInt32 := fault.number.map fun n => UInt32.ofInt n

/-- A fault's number as a signed word. -/
def Fault.signed (fault : Fault) : Option Int32 := fault.number.map Int32.ofInt

/-- An entry point that writes a string, with its faults. -/
def faultedText (symbol : Symbol) (out : Bool) (call : Call Simulation (Option StringOut)) :
    Call Simulation (Option StringOut) :=
  faulted symbol none (overriding Fault.string out) call

/-- An entry point that writes a flag, with its faults. -/
def faultedFlag (symbol : Symbol) (out : Bool) (call : Call Simulation (Option Bool)) :
    Call Simulation (Option Bool) :=
  faulted symbol none (overriding Fault.flag out) call

/-- An entry point that writes an unsigned number, with its faults. -/
def faultedUnsigned (symbol : Symbol) (out : Bool) (call : Call Simulation (Option UInt32)) :
    Call Simulation (Option UInt32) :=
  faulted symbol none (overriding Fault.unsigned out) call

/-- An entry point that writes a signed number, with its faults. -/
def faultedSigned (symbol : Symbol) (out : Bool) (call : Call Simulation (Option Int32)) :
    Call Simulation (Option Int32) :=
  faulted symbol none (overriding Fault.signed out) call

/-- An entry point that writes a handle, with its faults. -/
def faultedHandle (symbol : Symbol) (call : Call Simulation (Option Handle)) :
    Call Simulation (Option Handle) :=
  faulted symbol none (fun _ written => written) call

/-- An entry point that writes nothing, with its faults. -/
def faultedSilent (symbol : Symbol) (call : Call Simulation Unit) : Call Simulation Unit :=
  faulted symbol () (fun _ written => written) call

/-- The entry points of a table with the faults set for them. -/
def withFaults (base : EntryPoints Simulation) : EntryPoints Simulation where
  contextCreate out := faultedHandle .contextCreate (base.contextCreate out)
  contextReturnCode ctx out :=
    faultedUnsigned .contextReturnCode out (base.contextReturnCode ctx out)
  contextErrorName ctx out := faultedText .contextErrorName out (base.contextErrorName ctx out)
  contextErrorType ctx out :=
    faultedUnsigned .contextErrorType out (base.contextErrorType ctx out)
  contextErrorMessage ctx out :=
    faultedText .contextErrorMessage out (base.contextErrorMessage ctx out)
  contextCategoryNumber ctx out :=
    faultedSigned .contextCategoryNumber out (base.contextCategoryNumber ctx out)
  contextCategoryText ctx out :=
    faultedText .contextCategoryText out (base.contextCategoryText ctx out)
  contextCodeNumber ctx out :=
    faultedSigned .contextCodeNumber out (base.contextCodeNumber ctx out)
  contextStructuredCode ctx out :=
    faultedText .contextStructuredCode out (base.contextStructuredCode ctx out)
  contextDispose := base.contextDispose
  cancelJobWait ctx job limit out :=
    faultedFlag .cancelJobWait out (base.cancelJobWait ctx job limit out)
  cancelJobIsDone ctx job out :=
    faultedFlag .cancelJobIsDone out (base.cancelJobIsDone ctx job out)
  cancelJobDispose := base.cancelJobDispose
  jobName ctx job out := faultedText .jobName out (base.jobName ctx job out)
  jobWait ctx job limit out := faultedFlag .jobWait out (base.jobWait ctx job limit out)
  jobIsDone ctx job out := faultedFlag .jobIsDone out (base.jobIsDone ctx job out)
  jobTake ctx job out := faultedHandle .jobTake (base.jobTake ctx job out)
  jobTakeFor ctx job limit out := faultedHandle .jobTakeFor (base.jobTakeFor ctx job limit out)
  jobTakeIfReady ctx job readyOut valueOut :=
    faulted .jobTakeIfReady (none, none)
      (fun fault written => (overriding Fault.flag readyOut fault written.1, written.2))
      (base.jobTakeIfReady ctx job readyOut valueOut)
  jobCancel ctx job out := faultedFlag .jobCancel out (base.jobCancel ctx job out)
  jobCancelFor ctx job limit out :=
    faultedFlag .jobCancelFor out (base.jobCancelFor ctx job limit out)
  jobCancelAsync ctx job out := faultedHandle .jobCancelAsync (base.jobCancelAsync ctx job out)
  jobClose ctx job := faultedSilent .jobClose (base.jobClose ctx job)
  jobDispose := base.jobDispose
  loggerInit filters file := faultedSilent .loggerInit (base.loggerInit filters file)

/-- The simulated library with faults. -/
def faultyLibrary : Library Simulation :=
  ⟨.inProcess "faulty", withFaults (entryPoints Files.append?)⟩

end HandleBridge.Simulation
