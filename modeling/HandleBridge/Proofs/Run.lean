import HandleBridge.Operation

/-!
# Proofs/Run — calls made one after the other

A `Run b b'` is a sequence of calls that leads from `b` to `b'`, each naming only objects that were
made before it.  The native library and the clock may do anything between two calls
(`Operation.outside`), so a statement about all runs is a statement about all libraries and all
timings as well.
-/

namespace HandleBridge

variable {σ α : Type}

/-! ## The objects that a call names -/

namespace Bridge

/-- Was the object made? -/
def Has (b : Bridge σ) : Object → Prop
  | .manager m => m.index < b.managers.size
  | .resource r => r.index < b.resources.size
  | .context c => c.index < b.contexts.size
  | .job j => j.index < b.jobs.size
  | .cancellation c => c.index < b.cancellations.size

instance (b : Bridge σ) : (o : Object) → Decidable (b.Has o)
  | .manager m => inferInstanceAs (Decidable (m.index < b.managers.size))
  | .resource r => inferInstanceAs (Decidable (r.index < b.resources.size))
  | .context c => inferInstanceAs (Decidable (c.index < b.contexts.size))
  | .job j => inferInstanceAs (Decidable (j.index < b.jobs.size))
  | .cancellation c => inferInstanceAs (Decidable (c.index < b.cancellations.size))

/-- The resource that an object wraps; a manager wraps none. -/
def wrapped? (b : Bridge σ) : Object → Option Resource
  | .manager _ => none
  | .resource r => some r
  | .context c => some (b.context c).resource
  | .job j => some (b.job j).resource
  | .cancellation c => some (b.cancellation c).resource

end Bridge

namespace Operation

/-- The objects that a call may be passed along with its context. -/
def along (o : Object) (ctx : Option Context) : List Object := o :: (ctx.map .context).toList

/-- The objects that a call names. -/
def objects : {α : Type} → Operation σ α → List Object
  | _, createManager _ => []
  | _, closeManager m => [.manager m]
  | _, register m r => [.manager m, .resource r]
  | _, deregister m r => [.manager m, .resource r]
  | _, allocate m _ => [.manager m]
  | _, allocateFrom r _ => [.resource r]
  | _, write _ _ _ => []
  | _, dropBuffer _ => []
  | _, adopt m _ _ _ _ => [.manager m]
  | _, handle r => [.resource r]
  | _, createContext _ m => [.manager m]
  | _, adoptContext _ m _ => [.manager m]
  | _, returnCode c => [.context c]
  | _, errorType c => [.context c]
  | _, errorName c => [.context c]
  | _, errorMessage c => [.context c]
  | _, categoryNumber c => [.context c]
  | _, categoryText c => [.context c]
  | _, codeNumber c => [.context c]
  | _, structuredCode c => [.context c]
  | _, diagnostic c => [.context c]
  | _, adoptJob _ m _ _ => [.manager m]
  | _, jobName j ctx => along (.job j) ctx
  | _, jobWait j ctx _ => along (.job j) ctx
  | _, jobIsDone j ctx => along (.job j) ctx
  | _, jobTake j ctx => along (.job j) ctx
  | _, jobTakeFor j ctx _ => along (.job j) ctx
  | _, jobTakeIfReady j ctx => along (.job j) ctx
  | _, jobCancel j ctx => along (.job j) ctx
  | _, jobCancelFor j ctx _ => along (.job j) ctx
  | _, jobCancelAsync j ctx => along (.job j) ctx
  | _, cancellationWait c ctx _ => along (.cancellation c) ctx
  | _, cancellationIsDone c ctx => along (.cancellation c) ctx
  | _, close o ctx => along o ctx
  | _, drop o => [o]
  | _, outside _ => []
  | _, setUpLogger _ _ _ => []
  | _, setUpLoggerFrom _ _ => []
  | _, setUpTracing => []
  | _, load _ _ => []
  | _, share _ _ => []

/-- Does the call name only objects that were made? -/
def Known (b : Bridge σ) (op : Operation σ α) : Prop := ∀ o ∈ op.objects, b.Has o

instance (b : Bridge σ) (op : Operation σ α) : Decidable (op.Known b) :=
  inferInstanceAs (Decidable (∀ o ∈ op.objects, b.Has o))

/-- The bridge after a call. -/
def after (op : Operation σ α) (b : Bridge σ) : Bridge σ := (op.perform b).2

/-- Does the call end the wrapper of a resource? -/
def Drops (b : Bridge σ) (r : Resource) : {α : Type} → Operation σ α → Prop
  | _, drop o => b.wrapped? o = some r
  | _, _ => False

end Operation

/-! ## Runs -/

/-- **Calls made one after the other.** -/
inductive Run (b : Bridge σ) : Bridge σ → Type 1 where
  | done : Run b b
  | call {b' : Bridge σ} {α : Type} (run : Run b b') (op : Operation σ α) (known : op.Known b') :
      Run b (op.after b')

namespace Run

/-- A property that holds at the start and is kept by every call holds after every run. -/
theorem keeps {P : Bridge σ → Prop} {b b' : Bridge σ} (run : Run b b') (start : P b)
    (step : ∀ {b : Bridge σ} {α : Type} (op : Operation σ α), op.Known b → P b → P (op.after b)) :
    P b' := by
  induction run with
  | done => exact start
  | call run op known ih => exact step op known ih

/-- Was a wrapper of the resource ended in the course of the run? -/
def Drops (r : Resource) {b : Bridge σ} : {b' : Bridge σ} → Run b b' → Prop
  | _, done => False
  | _, @call _ _ b' _ run op _ => run.Drops r ∨ op.Drops b' r

end Run

end HandleBridge
