import HandleBridge.Bridge.Action

/-!
# Sharing — the library that a whole process uses

The first library that is shared successfully stays the shared one, whatever is configured later.
-/

namespace HandleBridge.Library

variable {σ : Type}

/-- Loads a library and tells the observers. -/
def loadAnnounced (open? : Loader σ) (path : String) : Action σ (Library σ) := do
  let library ← .ofExcept (Library.load open? path)
  .remark (.libraryLoaded path)
  return library

/-- The shared library, which is loaded if nobody has. -/
def share (open? : Loader σ) (config : Config) : Action σ (Library σ) := do
  let process ← .read (·.process)
  match process.shared with
  | some library => return library
  | none =>
    let path ← .ofExcept (config.resolveLibraryPath process.environment)
    let library ← loadAnnounced open? path
    .update (·.modifyProcess fun p => { p with shared := some library })
    return library

end HandleBridge.Library
