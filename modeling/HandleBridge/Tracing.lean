import HandleBridge.Bridge.Action

/-!
# Tracing — the remarks that a process prints

Tracing is set up at most once.  From then on each remark that is important enough is a line, and so
is the end of a span in the JSON format.
-/

namespace HandleBridge.Tracing

variable {σ : Type}

/-- The least important level that the environment asks for; none to print nothing. -/
def threshold (env : Environment) : Option Level :=
  match env.text? Environment.traceLevel with
  | none => some .info
  | some "" => some .error
  | some text => if text.toUpper = "OFF" then none else some ((Level.ofText? text).getD .info)

/-- Does the environment ask for JSON? -/
def wantsJson (env : Environment) : Bool :=
  env.text? Environment.traceJson = some "1" || env.text? Environment.traceJson = some "true"

/-- Sets tracing up and says whether this was the call that did. -/
def setUp : Action σ Bool := do
  let process ← .read (·.process)
  if process.trace.isSome then return false
  let json := wantsJson process.environment
  let since := (← .read (·.journal)).length
  .update (·.modifyProcess fun p =>
    { p with trace := some ⟨json, threshold process.environment, since⟩ })
  .remark (.tracingInitialized json)
  return true

/-- A line that was printed.  The text format shows no message that could be told from its fields. -/
inductive Line where
  | json (level : Level) (message : String)
  | text (level : Level)
  deriving DecidableEq, Repr

/-- The line for a remark. -/
def line? (t : Trace) (r : Remark) : Option Line :=
  if t.threshold.any (·.passes r.level) then
    match r with
    | .nativeCallEnded .. => if t.json then some (.json r.level "close") else none
    | _ => some (if t.json then .json r.level r.message else .text r.level)
  else none

/-- The lines that were printed. -/
def lines (b : Bridge σ) : List Line :=
  match b.process.trace with
  | none => []
  | some t =>
    (b.journal.drop t.since).filterMap fun
      | .remarked r => line? t r
      | _ => none

end HandleBridge.Tracing
