import HandleBridge.Native.EntryPoints
import HandleBridge.Text.CString

/-!
# Native/Direct — entry points called by name

A direct call names its entry point and passes handles as they are, with nothing checked and nothing
reported.  Out-parameters are cleared beforehand, so one that was not written reads as `false`, zero
or null.
-/

namespace HandleBridge

/-- What an out-parameter holds after a call. -/
inductive Written where
  | flag (value : Bool)
  | number (value : Int)
  | text (value : Option String)
  | handle (value : Option Handle)
  deriving DecidableEq, Repr

/-- A direct call. -/
structure DirectCall where
  symbol : Symbol
  ctx : Option Handle
  target : Option Handle
  limit : Nat
  /-- Is there somewhere to write to? -/
  out : Bool
  /-- Is there somewhere to write the value to, for the entry point that writes twice? -/
  valueOut : Bool
  deriving DecidableEq, Repr

/-- What a direct call came to. -/
structure DirectAnswer where
  status : Status
  /-- What the out-parameter holds, if one was passed. -/
  written : Option Written
  /-- The value, from the entry point that writes twice. -/
  value : Option Handle
  deriving DecidableEq, Repr

namespace DirectCall

variable {σ α : Type}

/-- Makes a call and reads what it wrote. -/
def reading (c : DirectCall) (read : α → Written) (call : Bool → Call σ α) (m : Machine σ) :
    DirectAnswer × Machine σ :=
  let (a, m) := call c.out m
  (⟨a.status, if c.out then some (read a.written) else none, none⟩, m)

/-- Makes a call that writes nothing. -/
def silent (call : Call σ Unit) (m : Machine σ) : DirectAnswer × Machine σ :=
  let (a, m) := call m
  (⟨a.status, none, none⟩, m)

/-- Makes a call that disposes of an object. -/
def disposing (dispose : Option Handle → Machine σ → Machine σ) (h : Option Handle)
    (m : Machine σ) : DirectAnswer × Machine σ :=
  (⟨.ok, none, none⟩, dispose h m)

/-- A flag that was written. -/
def readFlag (b : Option Bool) : Written := .flag (b.getD false)

/-- An unsigned number that was written. -/
def readUnsigned (n : Option UInt32) : Written := .number (n.getD 0).toNat

/-- A signed number that was written. -/
def readSigned (n : Option Int32) : Written := .number (n.getD 0).toInt

/-- A string that was written. -/
def readString (s : Option StringOut) : Written := .text (s.join.map CString.read)

/-- Makes a direct call of the entry points of a table.  The logger is initialized without
filters. -/
def run (c : DirectCall) (e : EntryPoints σ) : Machine σ → DirectAnswer × Machine σ :=
  match c.symbol with
  | .contextCreate => c.reading .handle e.contextCreate
  | .contextReturnCode => c.reading readUnsigned (e.contextReturnCode c.ctx)
  | .contextErrorName => c.reading readString (e.contextErrorName c.ctx)
  | .contextErrorType => c.reading readUnsigned (e.contextErrorType c.ctx)
  | .contextErrorMessage => c.reading readString (e.contextErrorMessage c.ctx)
  | .contextCategoryNumber => c.reading readSigned (e.contextCategoryNumber c.ctx)
  | .contextCategoryText => c.reading readString (e.contextCategoryText c.ctx)
  | .contextCodeNumber => c.reading readSigned (e.contextCodeNumber c.ctx)
  | .contextStructuredCode => c.reading readString (e.contextStructuredCode c.ctx)
  | .contextDispose => disposing e.contextDispose c.ctx
  | .cancelJobWait => c.reading readFlag (e.cancelJobWait c.ctx c.target c.limit)
  | .cancelJobIsDone => c.reading readFlag (e.cancelJobIsDone c.ctx c.target)
  | .cancelJobDispose => disposing e.cancelJobDispose c.target
  | .jobName => c.reading readString (e.jobName c.ctx c.target)
  | .jobWait => c.reading readFlag (e.jobWait c.ctx c.target c.limit)
  | .jobIsDone => c.reading readFlag (e.jobIsDone c.ctx c.target)
  | .jobTake => c.reading .handle (e.jobTake c.ctx c.target)
  | .jobTakeFor => c.reading .handle (e.jobTakeFor c.ctx c.target c.limit)
  | .jobTakeIfReady => fun m =>
    let (a, m) := e.jobTakeIfReady c.ctx c.target c.out c.valueOut m
    (⟨a.status, if c.out then some (readFlag a.written.1) else none, a.written.2⟩, m)
  | .jobCancel => c.reading readFlag (e.jobCancel c.ctx c.target)
  | .jobCancelFor => c.reading readFlag (e.jobCancelFor c.ctx c.target c.limit)
  | .jobCancelAsync => c.reading .handle (e.jobCancelAsync c.ctx c.target)
  | .jobClose => silent (e.jobClose c.ctx c.target)
  | .jobDispose => disposing e.jobDispose c.target
  | .loggerInit => silent (e.loggerInit none none)

end DirectCall

end HandleBridge
