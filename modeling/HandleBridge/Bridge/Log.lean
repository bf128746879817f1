import HandleBridge.Duration
import HandleBridge.Failure
import HandleBridge.Native.Symbol

/-!
# Bridge/Log — what the bridge tells its observers

Each remark has a level, a message and fields.  A native call is also a span, which is reported when
it ends.
-/

namespace HandleBridge

/-- How important a remark is. -/
inductive Level where
  | error
  | warn
  | info
  | debug
  | trace
  deriving DecidableEq, Repr, Inhabited

namespace Level

/-- The levels, the most important first. -/
def all : List Level := [error, warn, info, debug, trace]

/-- A level's written name. -/
def text : Level → String
  | error => "ERROR"
  | warn => "WARN"
  | info => "INFO"
  | debug => "DEBUG"
  | trace => "TRACE"

/-- How many levels are more important. -/
def rank : Level → Nat
  | error => 0
  | warn => 1
  | info => 2
  | debug => 3
  | trace => 4

/-- Does a threshold let the level pass? -/
def passes (threshold level : Level) : Bool := level.rank ≤ threshold.rank

/-- The level with a given name, whatever the case of its letters. -/
def ofText? (name : String) : Option Level := all.find? (·.text = name.toUpper)

end Level

/-- How a take waits for the result. -/
inductive TakeMode where
  /-- For as long as the job needs. -/
  | blocking
  /-- No longer than a span. -/
  | bounded (limit : Nat)
  /-- Not at all. -/
  | ifReady
  deriving DecidableEq, Repr, Inhabited

/-- A way of waiting, without its limit. -/
def TakeMode.text : TakeMode → String
  | blocking => "Blocking"
  | bounded _ => "Bounded"
  | ifReady => "IfReady"

/-- A remark. -/
inductive Remark where
  | managerCreated (capacity : Nat)
  | adopted (id : Nat) (kind : Kind)
  | unregisteredReleaseFailed (kind : Kind) (failure : Failure)
  | released (id : Nat) (kind : Kind) (lifetime : UInt64) (succeeded : Bool)
  | releasedOnDrop (id : Nat) (kind : Kind)
  | releaseOnDropFailed (id : Nat) (kind : Kind) (failure : Failure)
  | deregistered (id : Nat) (kind : Kind)
  | stragglerReleaseFailed (id : Nat) (kind : Kind) (failure : Failure)
  | managerClosed (disposed errors : Nat) (micros : UInt64)
  | slowTeardown (millis : UInt64)
  | stragglersReleasedOnDrop (disposed : Nat)
  | managerDropFailed (failure : Failure)
  | nativeCall (symbol : Symbol) (withContext : Bool)
  | slowNativeCall (symbol : Symbol) (millis : UInt64)
  /-- The span of a native call ended.  It has no status if the call was never made. -/
  | nativeCallEnded (symbol : Symbol) (micros : UInt64) (status : Option Status)
  | resultNotReady (job : Nat)
  | resultTaken (job : Nat) (mode : TakeMode) (hasValue : Bool)
  | valueDropped (job : String)
  | loggerInitialized (filters : String) (file : Option String)
  | loggerAlreadyInitialized
  | libraryLoaded (path : String)
  | tracingInitialized (json : Bool)
  deriving Repr, Inhabited

namespace Remark

/-- A remark's level. -/
def level : Remark → Level
  | unregisteredReleaseFailed .. | releaseOnDropFailed .. | stragglerReleaseFailed ..
  | slowTeardown .. | managerDropFailed .. | valueDropped .. => .warn
  | managerClosed .. | loggerInitialized .. | libraryLoaded .. | tracingInitialized .. => .info
  | managerCreated .. | released .. | releasedOnDrop .. | deregistered ..
  | stragglersReleasedOnDrop .. | slowNativeCall .. | resultTaken ..
  | loggerAlreadyInitialized => .debug
  | adopted .. | nativeCall .. | nativeCallEnded .. | resultNotReady .. => .trace

/-- A remark's message. -/
def message : Remark → String
  | managerCreated .. => "Resource manager created"
  | adopted .. => "Native resource adopted"
  | unregisteredReleaseFailed .. => "Release of unregistered handle failed"
  | released .. => "Native resource released"
  | releasedOnDrop .. => "Released on drop"
  | releaseOnDropFailed .. => "Release on drop failed"
  | deregistered .. => "Resource deregistered"
  | stragglerReleaseFailed .. => "Straggler release failed"
  | managerClosed .. => "Resource manager closed"
  | slowTeardown .. => "slow resource manager teardown"
  | stragglersReleasedOnDrop .. => "Resource manager released stragglers on drop"
  | managerDropFailed .. => "Resource manager drop had errors"
  | nativeCall .. => "Native call"
  | slowNativeCall .. => "slow native call"
  | nativeCallEnded .. => "span native_call"
  | resultNotReady .. => "Job result not ready"
  | resultTaken .. => "Job result taken"
  | valueDropped .. => "Job value dropped without being adopted"
  | loggerInitialized .. => "Native logger initialized"
  | loggerAlreadyInitialized => "Native logger already initialized"
  | libraryLoaded .. => "Native library loaded"
  | tracingInitialized .. => "Structured tracing initialized"

/-- A natural number, as a field. -/
def natural (n : Nat) : Json := .integer n

/-- A word of 64 bits, as a field. -/
def word (n : UInt64) : Json := .integer n.toNat

/-- A remark's fields. -/
def fields : Remark → List (String × Json)
  | managerCreated capacity => [("region_capacity", natural capacity)]
  | adopted id kind | releasedOnDrop id kind | deregistered id kind =>
    [("id", natural id), ("kind", .text kind.text)]
  | unregisteredReleaseFailed kind failure =>
    [("kind", .text kind.text), ("error", .text failure.message)]
  | released id kind lifetime succeeded =>
    [("id", natural id), ("kind", .text kind.text), ("lifetime_micros", word lifetime),
     ("ok", .bool succeeded)]
  | releaseOnDropFailed id kind failure | stragglerReleaseFailed id kind failure =>
    [("id", natural id), ("kind", .text kind.text), ("error", .text failure.message)]
  | managerClosed disposed errors micros =>
    [("disposed", natural disposed), ("errors", natural errors), ("micros", word micros)]
  | slowTeardown millis => [("duration_ms", word millis)]
  | stragglersReleasedOnDrop disposed => [("disposed", natural disposed)]
  | managerDropFailed failure => [("error", .text failure.message)]
  | nativeCall symbol withContext =>
    [("operation", .text symbol.name), ("with_context", .bool withContext)]
  | slowNativeCall symbol millis =>
    [("operation", .text symbol.name), ("duration_ms", word millis)]
  | nativeCallEnded symbol micros status =>
    [("operation", .text symbol.name), ("duration_us", word micros)] ++
      (status.map fun s => ("rc", Json.text s.name)).toList
  | resultNotReady job => [("job", natural job)]
  | resultTaken job mode hasValue =>
    [("job", natural job), ("mode", .text mode.text), ("has_value", .bool hasValue)]
  | valueDropped job => [("job", .text job)]
  | loggerInitialized filters file =>
    [("filters", .text filters), ("file", Diagnostic.nullableJson .text file)]
  | loggerAlreadyInitialized => []
  | libraryLoaded path =>
    [("path", .text path), ("symbols", natural Symbol.all.length)]
  | tracingInitialized json => [("json", .bool json)]

/-- What a teardown that took a span is worth saying about. -/
def ofTeardown (span : Nat) : Option Remark :=
  if Duration.slow < span then some (.slowTeardown (Duration.millis span)) else none

/-- What a native call that took a span is worth saying about. -/
def ofNativeCall (symbol : Symbol) (span : Nat) : Option Remark :=
  if Duration.slow < span then some (.slowNativeCall symbol (Duration.millis span)) else none

end Remark

end HandleBridge
