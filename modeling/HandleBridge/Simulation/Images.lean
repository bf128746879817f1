import HandleBridge.Simulation.Library

/-!
# Simulation/Images — shared libraries that a process can open

A path with a slash in it is looked up among the files.  One without is searched for among the
libraries of the system, which export nothing of ours.  The empty path opens the process itself, which
exports nothing either.  A zero character may only end a path.
-/

namespace HandleBridge.Simulation

/-- Shared libraries by their places, with the entry points that each exports. -/
abbrev Images := List (Place × List Symbol)

/-- The path without the zero character that ends it. -/
def unterminated (path : String) : String :=
  match path.toList.getLast? with
  | some '\x00' => String.ofList path.toList.dropLast
  | _ => path

/-- The image with the given exports, whose entry points do nothing. -/
def idleImage (exported : List Symbol) : Image Simulation := ⟨exported.map (·.name), .idle _⟩

/-- The libraries of the system that every process can open by name. -/
def systemLibraries : List String :=
  ["libc.so.6", "libm.so.6", "libgcc_s.so.1", "libpthread.so.0", "libdl.so.2", "librt.so.1",
   "ld-linux-x86-64.so.2"]

/-- Opens the image at a path. -/
def Images.open? (images : Images) (files : Files) : Loader Simulation := fun path =>
  let path := unterminated path
  if path = "" || systemLibraries.contains path then some (idleImage [])
  else if path.toList.contains '/' then
    ((files.resolve path).bind fun place => images.lookup place).map idleImage
  else none

end HandleBridge.Simulation
