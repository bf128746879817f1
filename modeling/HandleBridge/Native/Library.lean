import HandleBridge.Failure
import HandleBridge.Native.EntryPoints
import HandleBridge.Text.Quoted

/-!
# Native/Library — a native library and where it came from

A library is a table of entry points that lives in this process, or one that was resolved from a
shared library's image.  `Library.load` opens an image and needs it to export every entry point; the
first one missing, in the order of `Symbol.all`, is the reason given.
-/

namespace HandleBridge

/-- Where a table of entry points came from. -/
inductive LibraryOrigin where
  | path (path : String)
  | inProcess (label : String)
  deriving DecidableEq, Repr

/-- The origin as it is shown to people who debug. -/
def LibraryOrigin.debugText : LibraryOrigin → String
  | path p => "Path(" ++ Quoted.quote p ++ ")"
  | inProcess label => "InProcess(" ++ Quoted.quote label ++ ")"

/-- A native library. -/
structure Library (σ : Type) where
  origin : LibraryOrigin
  entry : EntryPoints σ

/-- What the loader finds in a shared library: the names it exports, and what they do. -/
structure Image (σ : Type) where
  exports : List String
  entry : EntryPoints σ

/-- The images a process can open. -/
abbrev Loader (σ : Type) := String → Option (Image σ)

namespace Library

variable {σ : Type}

instance : Inhabited (Library σ) := ⟨⟨.inProcess "idle", .idle σ⟩⟩

/-- The library as it is shown to people who debug. -/
def debugText (library : Library σ) : String :=
  "NativeLibrary \x7b origin: " ++ library.origin.debugText ++ ", .. \x7d"

/-- The first entry point that an image does not export. -/
def missing? (image : Image σ) : Option Symbol :=
  Symbol.all.find? fun s => !image.exports.contains s.name

/-- The library at a path.  What the operating system said about an image that cannot be opened is
left to it. -/
def load (open? : Loader σ) (path : String) : Except Failure (Library σ) :=
  match open? path with
  | none => .error (.libraryLoad path "<os>")
  | some image =>
    match missing? image with
    | some symbol => .error (.libraryLoad path ("missing symbol " ++ symbol.name))
    | none => .ok ⟨.path path, image.entry⟩

end Library

end HandleBridge
