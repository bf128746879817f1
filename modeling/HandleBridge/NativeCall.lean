import HandleBridge.Manager

/-!
# NativeCall — calls of entry points, and what a failed one reports

A call may be given a context, which is held open for as long as the call lasts.  When the call fails,
the context is read before anybody else can use it, and the failure carries what it said:
`readDiagnostic`.  Without a context a failure carries the status alone.
-/

namespace HandleBridge

variable {σ α : Type}

/-- Calls an entry point. -/
def invoke (symbol : Symbol) (target : Option Handle) (call : Call σ α) :
    Action σ (Answer α) := do
  .note (.called symbol target)
  .run call

/-- Calls an entry point that writes to a cell of scratch memory. -/
def invokeInto (out : Buffer) (cell : α → Cell) (symbol : Symbol) (target : Option Handle)
    (call : Call σ α) : Action σ (Answer α) := do
  let answer ← invoke symbol target call
  Manager.put out 0 (cell answer.written)
  return answer

/-! ## Diagnostics -/

/-- The text at an address. -/
def readText (s : StringOut) : Option String := s.map CString.read

/-- What an entry point wrote, if it succeeded. -/
def Answer.success? (a : Answer α) : Option α := if a.status.isOk then some a.written else none

/-- A snapshot in the making.  The getters of a context are called one after the other, and write to
two variables: one for texts and one for numbers. -/
structure Reading where
  diagnostic : Diagnostic
  text : StringOut
  number : Int32

namespace Reading

/-- Before a getter is asked, both variables are cleared, and there is no more than the status. -/
def start (status : Status) : Reading := ⟨.ofStatus status, none, 0⟩

/-- The reading with the variable for texts cleared. -/
def clearText (r : Reading) : Reading := { r with text := none }

/-- The reading with the variable for numbers cleared. -/
def clearNumber (r : Reading) : Reading := { r with number := 0 }

/-- The reading after the answer of a getter for a text.  A variable that was not written to keeps
what it held, and a getter that succeeded is believed whether or not it wrote. -/
def takeText (r : Reading) (enter : Diagnostic → Option String → Diagnostic)
    (a : Answer (Option StringOut)) : Reading :=
  let text := a.written.getD r.text
  { r with
    text
    diagnostic := if a.status.isOk then enter r.diagnostic (readText text) else r.diagnostic }

/-- The reading after the answer of a getter for a number, in the same way. -/
def takeNumber (r : Reading) (enter : Diagnostic → Option Int32 → Diagnostic)
    (a : Answer (Option Int32)) : Reading :=
  let number := a.written.getD r.number
  { r with
    number
    diagnostic := if a.status.isOk then enter r.diagnostic (some number) else r.diagnostic }

end Reading

/-- Asks a getter of a context and goes on with what comes of its answer. -/
def ask (symbol : Symbol) (getter : Option Handle → Bool → Call σ α) (ctx : Handle)
    (take : Answer α → Reading) : Action σ Reading :=
  take <$> invoke symbol (some ctx) (getter (some ctx) true)

/-- Asks the getters for all failures.  A name that was not given leaves the status's own. -/
def readCommon (entry : EntryPoints σ) (ctx : Handle) (r : Reading) : Action σ Reading := do
  let r ← ask .contextErrorName entry.contextErrorName ctx <|
    r.takeText fun d name => { d with name := name.or d.name }
  ask .contextErrorMessage entry.contextErrorMessage ctx <|
    r.clearText.takeText fun d message => { d with message }

/-- Asks the getters for server errors. -/
def readServer (entry : EntryPoints σ) (ctx : Handle) (r : Reading) : Action σ Reading := do
  let r ← ask .contextCategoryNumber entry.contextCategoryNumber ctx <|
    r.takeNumber fun d categoryNumber => { d with categoryNumber }
  let r ← ask .contextCategoryText entry.contextCategoryText ctx <|
    r.clearText.takeText fun d categoryText => { d with categoryText }
  let r ← ask .contextCodeNumber entry.contextCodeNumber ctx <|
    r.clearNumber.takeNumber fun d codeNumber => { d with codeNumber }
  ask .contextStructuredCode entry.contextStructuredCode ctx <|
    r.clearText.takeText fun d structuredCode => { d with structuredCode }

/-- The snapshot of a context after a call that answered with a status.  Only after a server error is
there anything to ask about the server. -/
def readDiagnostic (entry : EntryPoints σ) (ctx : Handle) (status : Status) :
    Action σ Diagnostic := do
  let r ← readCommon entry ctx (.start status)
  if r.diagnostic.isServerError then return (← readServer entry ctx r).diagnostic
  else return r.diagnostic

/-! ## Calls -/

/-- Makes a call without a context. -/
def callAlone (call : Option Handle → Action σ (Answer α)) :
    Action σ (Option Status × Except Failure α) := do
  let answer ← call none
  return (some answer.status,
    if answer.status.isOk then .ok answer.written else .error (.ofStatus answer.status none))

/-- Makes a call with a context. -/
def callWith (c : Context) (call : Option Handle → Action σ (Answer α)) :
    Action σ (Option Status × Except Failure α) := do
  let s ← .read (·.context c)
  let resource ← .read (·.resource s.resource)
  if resource.closed then return (none, .error (.alreadyClosed resource.kind))
  let answer ← call (some resource.handle)
  if answer.status.isOk then return (some answer.status, .ok answer.written)
  let d ← readDiagnostic s.library.entry resource.handle answer.status
  return (some answer.status, .error (.ofStatus answer.status (some d)))

/-- Makes a call of an entry point, with a context or without, and takes what it wrote. -/
def callNative (ctx : Option Context) (symbol : Symbol)
    (call : Option Handle → Action σ (Answer α)) : Action σ α := do
  .remark (.nativeCall symbol ctx.isSome)
  let start ← .clock
  let (status, result) ← match ctx with
    | none => callAlone call
    | some c => callWith c call
  let span := (← .clock) - start
  .remark? (Remark.ofNativeCall symbol span)
  .remark (.nativeCallEnded symbol (Duration.micros span) status)
  .ofExcept result

end HandleBridge
