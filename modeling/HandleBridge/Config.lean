import HandleBridge.Environment
import HandleBridge.Failure

/-!
# Config — how the bridge finds and sets up the native library

A configuration starts from the defaults, from the environment or from a JSON document, and is then
refined field by field.  An explicit library path always wins; `resolveLibraryPath` falls back on the
environment, whatever the configuration started from.
-/

namespace HandleBridge

/-- Startup properties. -/
structure Config where
  /-- Where the native library is. -/
  libraryPath : Option String
  /-- The filter expression handed to the native logger. -/
  logFilters : Option String
  /-- The output file of the native logger. -/
  logFile : Option String
  /-- The first capacity of each manager's allocation region, in bytes. -/
  regionCapacity : Nat
  deriving DecidableEq, Repr

namespace Config

/-- The capacity of a region that nobody configured. -/
def defaultRegionCapacity : Nat := 4096

/-- Nothing configured. -/
def default : Config := ⟨none, none, none, defaultRegionCapacity⟩

instance : Inhabited Config := ⟨default⟩

/-- What the environment configures. -/
def ofEnvironment (env : Environment) : Config where
  libraryPath := env.value? Environment.libraryPath
  logFilters := env.value? Environment.log
  logFile := env.value? Environment.logFile
  regionCapacity := defaultRegionCapacity

/-! ## Setting one field -/

/-- A setting of one field. -/
inductive Setting where
  | libraryPath (path : String)
  | logFilters (filters : String)
  | logFile (path : String)
  | regionCapacity (bytes : Nat)
  deriving DecidableEq, Repr

/-- The configuration with one field set. -/
def set (c : Config) : Setting → Config
  | .libraryPath path => { c with libraryPath := some path }
  | .logFilters filters => { c with logFilters := some filters }
  | .logFile path => { c with logFile := some path }
  | .regionCapacity bytes => { c with regionCapacity := bytes }

/-- The configuration with fields set one after the other. -/
def setAll (c : Config) (settings : List Setting) : Config := settings.foldl set c

/-! ## JSON -/

/-- The members of the JSON form, in declared order. -/
def memberNames : List String := ["library_path", "log_filters", "log_file", "region_capacity"]

/-- The JSON form. -/
def toJson (c : Config) : Json :=
  .record (memberNames.zip
    [Diagnostic.nullableJson .text c.libraryPath, Diagnostic.nullableJson .text c.logFilters,
     Diagnostic.nullableJson .text c.logFile, .integer c.regionCapacity])

/-- A configuration given by its members, each of which may be left out. -/
def reader : Json.Reader Config := fun j => do
  match ← Json.Slots.of? true memberNames j with
  | [libraryPath, logFilters, logFile, regionCapacity] =>
    return {
      libraryPath := ← Json.Slots.optional Json.Reader.text libraryPath
      logFilters := ← Json.Slots.optional Json.Reader.text logFilters
      logFile := ← Json.Slots.optional Json.Reader.text logFile
      regionCapacity := ← Json.Slots.withDefault (Json.Reader.natural UInt64.size)
        defaultRegionCapacity regionCapacity }
  | _ => none

/-- A configuration document.  What is wrong with an unreadable one is left to the reader of the
document. -/
def ofJson (document : String) : Except Failure Config :=
  match (Json.read? document).bind reader with
  | some c => .ok c
  | none => .error (.config "<json>")

/-! ## The native library's path -/

/-- No path is configured, neither here nor in the environment. -/
def pathNotSet : Failure :=
  .config ("native library path not set; configure library_path or " ++ Environment.libraryPath)

/-- The path of the native library. -/
def resolveLibraryPath (c : Config) (env : Environment) : Except Failure String :=
  match c.libraryPath with
  | some path => .ok path
  | none =>
    match env.value? Environment.libraryPath with
    | some path => .ok path
    | none => .error pathNotSet

end Config

end HandleBridge
