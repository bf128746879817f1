import HandleBridge.Context
import HandleBridge.Job
import HandleBridge.Logger
import HandleBridge.Sharing
import HandleBridge.Tracing

/-!
# Operation — what can be asked of a bridge

An `Operation` is a call of the bridge as data, with the type of its result; `perform` makes it.  A
run is a sequence of operations, and a statement about all runs is a statement about all sequences.
`outside` stands for anything that the native library and the clock do on their own.
-/

namespace HandleBridge

/-- A wrapped object of any sort. -/
inductive Object where
  | manager (m : Manager)
  | resource (r : Resource)
  | context (c : Context)
  | job (j : Job)
  | cancellation (c : Cancellation)
  deriving DecidableEq, Repr

/-- What scratch memory is taken for. -/
inductive Content where
  | cells (cells : List Cell)
  | text (text : String)
  | texts (texts : List String)
  | handles (handles : List Handle)
  deriving DecidableEq, Repr

/-- A call of the bridge and the type of its result. -/
inductive Operation (σ : Type) : Type → Type where
  | createManager (capacity : Nat) : Operation σ (Option Manager)
  | closeManager (m : Manager) : Operation σ Teardown
  | register (m : Manager) (r : Resource) : Operation σ Unit
  | deregister (m : Manager) (r : Resource) : Operation σ Bool
  | allocate (m : Manager) (content : Content) : Operation σ Buffer
  | allocateFrom (r : Resource) (cells : List Cell) : Operation σ Buffer
  | write (b : Buffer) (offset : Nat) (cell : Cell) : Operation σ Unit
  | dropBuffer (b : Buffer) : Operation σ Unit
  | adopt (m : Manager) (h : Handle) (kind : Kind) (pause : Nat) (failure : Option Failure) :
      Operation σ Resource
  | handle (r : Resource) : Operation σ Handle
  | createContext (library : Library σ) (m : Manager) : Operation σ Context
  | adoptContext (library : Library σ) (m : Manager) (h : Handle) : Operation σ Context
  | returnCode (c : Context) : Operation σ Status
  | errorType (c : Context) : Operation σ Origin
  | errorName (c : Context) : Operation σ (Option String)
  | errorMessage (c : Context) : Operation σ (Option String)
  | categoryNumber (c : Context) : Operation σ (Option Int32)
  | categoryText (c : Context) : Operation σ (Option String)
  | codeNumber (c : Context) : Operation σ (Option Int32)
  | structuredCode (c : Context) : Operation σ (Option String)
  | diagnostic (c : Context) : Operation σ Diagnostic
  | adoptJob (library : Library σ) (m : Manager) (h : Handle) (converter : Converter σ) :
      Operation σ Job
  | jobName (j : Job) (ctx : Option Context) : Operation σ String
  | jobWait (j : Job) (ctx : Option Context) (limit : Nat) : Operation σ Bool
  | jobIsDone (j : Job) (ctx : Option Context) : Operation σ Bool
  | jobTake (j : Job) (ctx : Option Context) : Operation σ Yield
  | jobTakeFor (j : Job) (ctx : Option Context) (limit : Nat) : Operation σ Yield
  | jobTakeIfReady (j : Job) (ctx : Option Context) : Operation σ (Option Yield)
  | jobCancel (j : Job) (ctx : Option Context) : Operation σ Bool
  | jobCancelFor (j : Job) (ctx : Option Context) (limit : Nat) : Operation σ Bool
  | jobCancelAsync (j : Job) (ctx : Option Context) : Operation σ (Option Cancellation)
  | cancellationWait (c : Cancellation) (ctx : Option Context) (limit : Nat) : Operation σ Bool
  | cancellationIsDone (c : Cancellation) (ctx : Option Context) : Operation σ Bool
  | close (o : Object) (ctx : Option Context) : Operation σ Unit
  | drop (o : Object) : Operation σ Unit
  | outside (change : Machine σ → Machine σ) : Operation σ Unit
  | setUpLogger (library : Library σ) (filters : String) (file : Option String) :
      Operation σ Bool
  | setUpLoggerFrom (library : Library σ) (config : Config) : Operation σ Bool
  | setUpTracing : Operation σ Bool
  | load (open? : Loader σ) (path : String) : Operation σ (Library σ)
  | share (open? : Loader σ) (config : Config) : Operation σ (Library σ)

namespace Operation

variable {σ : Type}

/-- Closes an object.  Only a job has use for a context. -/
def closeObject (ctx : Option Context) : Object → Action σ Unit
  | .manager m => discard m.close
  | .resource r => r.close
  | .context c => c.close
  | .job j => j.close ctx
  | .cancellation c => c.close

/-- Ends the wrapper of an object. -/
def dropObject : Object → Action σ Unit
  | .manager m => m.drop
  | .resource r => r.drop
  | .context c => c.drop
  | .job j => j.drop
  | .cancellation c => c.drop

/-- Takes scratch memory from a manager. -/
def allocateContent (m : Manager) : Content → Action σ Buffer
  | .cells cells => m.allocate cells
  | .text text => m.allocateText text
  | .texts texts => m.allocateTexts texts
  | .handles handles => m.allocateHandles handles

/-- Makes a call. -/
def perform {α : Type} : Operation σ α → Action σ α
  | createManager capacity => Manager.create capacity
  | closeManager m => m.close
  | register m r => m.register r
  | deregister m r => m.deregister r
  | allocate m content => allocateContent m content >>= Manager.handOut
  | allocateFrom r cells => r.allocate cells >>= Manager.handOut
  | write b offset cell => Manager.put b offset cell
  | dropBuffer b => .update (·.letGo b)
  | adopt m h kind pause failure => Resource.adopt m h kind (.scripted pause failure)
  | handle r => r.handle
  | createContext library m => Context.create library m
  | adoptContext library m h => Context.adopt library m h
  | returnCode c => c.returnCode
  | errorType c => c.errorType
  | errorName c => c.errorName
  | errorMessage c => c.errorMessage
  | categoryNumber c => c.categoryNumber
  | categoryText c => c.categoryText
  | codeNumber c => c.codeNumber
  | structuredCode c => c.structuredCode
  | diagnostic c => c.diagnostic
  | adoptJob library m h converter => Job.adopt library m h converter
  | jobName j ctx => j.name ctx
  | jobWait j ctx limit => j.wait ctx limit
  | jobIsDone j ctx => j.isDone ctx
  | jobTake j ctx => j.take ctx
  | jobTakeFor j ctx limit => j.takeFor ctx limit
  | jobTakeIfReady j ctx => j.takeIfReady ctx
  | jobCancel j ctx => j.cancel ctx
  | jobCancelFor j ctx limit => j.cancelFor ctx limit
  | jobCancelAsync j ctx => j.cancelAsync ctx
  | cancellationWait c ctx limit => c.wait ctx limit
  | cancellationIsDone c ctx => c.isDone ctx
  | close o ctx => closeObject ctx o
  | drop o => dropObject o
  | outside change => .run fun m => ((), change m)
  | setUpLogger library filters file => Logger.setUp library filters file
  | setUpLoggerFrom library config => Logger.setUpFrom library config
  | setUpTracing => Tracing.setUp
  | load open? path => Library.loadAnnounced open? path
  | share open? config => Library.share open? config

end Operation

end HandleBridge
