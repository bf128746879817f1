import HandleBridge.NativeCall

/-!
# Logger — one-shot initialization of the native library's logger

The logger is initialized at most once in a process, whatever the library.  A failed attempt leaves it
uninitialized, so a later one can still succeed.
-/

namespace HandleBridge.Logger

variable {σ : Type}

/-- The spelling of an argument, which must not have a zero character. -/
def spell (what text : String) : Except Failure (List UInt8) :=
  if CString.spellable text then .ok (CString.ofText text)
  else .error (.argument (what ++ " contains a NUL byte"))

/-- Calls the library's entry point. -/
def callLibrary (library : Library σ) (filters : String) (file : Option String) :
    Action σ Unit := do
  let filterBytes ← .ofExcept (spell "log filter" filters)
  let fileBytes ← .ofExcept (file.mapM (spell "log file path"))
  let answer ← invoke .loggerInit none (library.entry.loggerInit (some filterBytes) fileBytes)
  if answer.status.isOk then .remark (.loggerInitialized filters file)
  else .fail (.ofStatus answer.status none)

/-- Initializes the logger and says whether this was the call that did. -/
def setUp (library : Library σ) (filters : String) (file : Option String) :
    Action σ Bool := do
  if (← .read (·.process)).loggerInitialized then
    .remark .loggerAlreadyInitialized
    return false
  callLibrary library filters file
  .update (·.modifyProcess fun p => { p with loggerInitialized := true })
  return true

/-- Initializes the logger as it is configured.  Without filters there is nothing to do. -/
def setUpFrom (library : Library σ) (config : Config) : Action σ Bool :=
  match config.logFilters with
  | none => pure false
  | some filters => setUp library filters config.logFile

end HandleBridge.Logger
