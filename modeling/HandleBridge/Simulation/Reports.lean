import HandleBridge.Simulation.Memory

/-!
# Simulation/Reports — what contexts keep of failed calls

A call that is given a context leaves its report there: `refuse` when it fails, `accept`, which clears
the slot, when it succeeds.  The getters read the slot and never change it.  A field that the slot
does not hold is answered with `Status.codeNotFound`.
-/

namespace HandleBridge

/-- The answer with what was written changed. -/
def Answer.map {α β : Type} (f : α → β) (a : Answer α) : Answer β := ⟨a.status, f a.written⟩

namespace Simulation

variable {α : Type}

/-! ## Leaving a report -/

/-- A call that fails. -/
def refuse (ctx : Option Handle) (report : Report) (written : α) : Call Simulation α :=
  fun m => (⟨report.status, written⟩, { m with native := m.native.report ctx (some report) })

/-- A call that succeeds. -/
def accept (ctx : Option Handle) (written : α) : Call Simulation α :=
  fun m => (⟨.ok, written⟩, { m with native := m.native.report ctx none })

/-! ## Creation and disposal -/

/-- Creates a context. -/
def contextCreate (out : Bool) : Call Simulation (Option Handle) := fun m =>
  if out then
    let (h, native) := m.native.newContext none
    (⟨.ok, some h⟩, { m with native })
  else (⟨.argError 0, none⟩, m)

/-- Disposes of a context. -/
def contextDispose (ctx : Option Handle) (m : Machine Simulation) : Machine Simulation :=
  match m.native.context? ctx with
  | some c => { m with native := m.native.count c.probe }
  | none => m

/-! ## Reading a report -/

/-- Reads a field of the slot. -/
def observe (read : Option Report → Option α) (ctx : Option Handle) (out : Bool) :
    Call Simulation (Option α) := fun m =>
  match m.native.context? ctx with
  | none => (⟨.argError 0, none⟩, m)
  | some c =>
    if out then
      match read c.latest with
      | some a => (⟨.ok, some a⟩, m)
      | none => (⟨.codeNotFound, none⟩, m)
    else (⟨.argError 1, none⟩, m)

/-- A text as the library hands it out. -/
def spelled (text : String) : StringOut := some (CString.ofText (CString.blankZeros text))

/-- Reads a text of the slot, which may be null. -/
def observeText (read : Option Report → Option (Option String)) (ctx : Option Handle)
    (out : Bool) : Call Simulation (Option StringOut) := fun m =>
  let (a, m) := observe read ctx out m
  (a.map fun text => text.map (·.bind spelled), m)

/-- What the server said, if the slot holds it. -/
def serverDetail (latest : Option Report) : Option ServerDetail := latest.bind (·.server)

/-- The status of the latest call. -/
def latestStatus : Option Report → Status
  | some r => r.status
  | none => .ok

/-- The status of the latest call. -/
def contextReturnCode : Option Handle → Bool → Call Simulation (Option UInt32) :=
  observe fun latest => some (latestStatus latest).raw

/-- Where the status of the latest call originated. -/
def contextErrorType : Option Handle → Bool → Call Simulation (Option UInt32) :=
  observe fun latest => some ((latestStatus latest).raw >>> 30)

/-- The name of the status; null after a success. -/
def contextErrorName : Option Handle → Bool → Call Simulation (Option StringOut) :=
  observeText fun latest => some (latest.map (·.status.name))

/-- The message; null after a success. -/
def contextErrorMessage : Option Handle → Bool → Call Simulation (Option StringOut) :=
  observeText fun latest => some (latest.map (·.message))

/-- The number of the server's category. -/
def contextCategoryNumber : Option Handle → Bool → Call Simulation (Option Int32) :=
  observe fun latest => (serverDetail latest).map (·.categoryNumber)

/-- The text of the server's category. -/
def contextCategoryText : Option Handle → Bool → Call Simulation (Option StringOut) :=
  observeText fun latest => (serverDetail latest).map fun d => some d.categoryText

/-- The number of the server's code. -/
def contextCodeNumber : Option Handle → Bool → Call Simulation (Option Int32) :=
  observe fun latest => (serverDetail latest).map (·.codeNumber)

/-- The text of the server's code. -/
def contextStructuredCode : Option Handle → Bool → Call Simulation (Option StringOut) :=
  observeText fun latest => (serverDetail latest).map fun d => some d.structuredCode

end Simulation

end HandleBridge
