import HandleBridge.Simulation.Memory

/-!
# Simulation/Logger — one-shot settings of the simulated library's logger

The first call that finds no settings records its own; later calls succeed and change nothing.  When a
file is named, a line about the settings is added to it first, and the call fails without recording
anything if that cannot be done.  How a line is added is a parameter, since a file system may refuse
at any time.
-/

namespace HandleBridge.Simulation

/-- A way of adding text to the file at a path, which may fail. -/
abbrev Appending := (path text : String) → Files → Option Files

/-- The line that announces the settings. -/
def announcement (filters : String) : String := "logger initialized filters=" ++ filters ++ "\n"

/-- The machine with its logger's settings recorded. -/
def configure (m : Machine Simulation) (settings : LoggerSettings) : Machine Simulation :=
  { m with native := { m.native with logger := some settings } }

/-- Initializes the logger. -/
def loggerInit (append : Appending) (filters file : StringOut) : Call Simulation Unit := fun m =>
  match filters.map CString.read, m.native.logger with
  | none, _ => (⟨.argError 0, ()⟩, m)
  | some _, some _ => (⟨.ok, ()⟩, m)
  | some filters, none =>
    match file.map CString.read with
    | none => (⟨.ok, ()⟩, configure m ⟨filters, none⟩)
    | some path =>
      match append path (announcement filters) m.native.files with
      | none => (⟨.ioError, ()⟩, m)
      | some files =>
        (⟨.ok, ()⟩,
          configure { m with native := { m.native with files } } ⟨filters, some path⟩)

end HandleBridge.Simulation
