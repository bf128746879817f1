/-!
# Simulation/Files — the files a process can append to

A path leads from the root of the tree, or from the working directory, along directories that exist;
it names a file unless it ends at a directory.  Names and paths that are too long name nothing.  What
the process makes itself lies below the directory of temporary files, and `append?` adds text there to
a file, which it creates first if need be.  Elsewhere only devices can be written to, which keep
nothing.
-/

namespace HandleBridge

/-- A place in the tree: the names on the way from its root. -/
abbrev Place := List String

/-- What becomes of text sent to a device, and what a reader gets from it before it ends. -/
structure Device where
  accepts : Bool
  /-- Nothing for a device that never ends. -/
  yields : Option String
  deriving Repr, Inhabited

/-- The directories and the files that a process has made or was given. -/
structure Files where
  directories : List Place
  contents : List (Place × String)
  deriving Repr, Inhabited

namespace Files

/-! ## What every machine has -/

/-- The directory of temporary files, below which everything may be written. -/
def temporary : Place := ["tmp"]

/-- The directory that a process is started in. -/
def workingDirectory : Place := temporary ++ ["work"]

/-- The place that names lead to from the working directory. -/
def here (names : List String) : Place := workingDirectory ++ names

/-- The directories that are always there. -/
def standardDirectories : List Place := [[], ["dev"], temporary, workingDirectory]

/-- The devices: one that swallows everything, two that do so and never end, and one that is always
full. -/
def devices : List (Place × Device) :=
  [(["dev", "null"], ⟨true, some ""⟩),
   (["dev", "zero"], ⟨true, none⟩),
   (["dev", "urandom"], ⟨true, none⟩),
   (["dev", "full"], ⟨false, none⟩)]

/-- A file system whose working directory has the given directories and no file. -/
def ofDirectories (names : List String) : Files := ⟨names.map fun name => here [name], []⟩

/-- Does the directory exist? -/
def isDirectory (files : Files) (place : Place) : Bool :=
  standardDirectories.contains place || files.directories.contains place

/-! ## Paths -/

/-- The most bytes that a name can have. -/
def longestName : Nat := 255

/-- The most bytes that a path can have. -/
def longestPath : Nat := 4095

/-- The place that a sequence of names leads to from a place.  Only the last name need not exist, and
the root is above itself. -/
def follow (files : Files) : Place → List String → Option Place
  | place, [] => some place
  | place, "" :: names => files.follow place names
  | place, "." :: names => files.follow place names
  | place, ".." :: names => files.follow place.dropLast names
  | place, [name] => if name.utf8ByteSize ≤ longestName then some (place ++ [name]) else none
  | place, name :: names =>
    if files.isDirectory (place ++ [name]) then files.follow (place ++ [name]) names else none

/-- The place that a path names. -/
def resolve (files : Files) (path : String) : Option Place :=
  if path.isEmpty || longestPath < path.utf8ByteSize then none
  else
    files.follow (if path.startsWith "/" then [] else workingDirectory)
      ((path.split '/').toList.map (·.toString))

/-- The file that a path names, whether or not it exists. -/
def file? (files : Files) (path : String) : Option Place :=
  (files.resolve path).filter (!files.isDirectory ·)

/-! ## Contents -/

/-- What a file holds. -/
def read? (files : Files) (path : String) : Option String :=
  (files.file? path).bind fun place =>
    match devices.lookup place with
    | some device => device.yields
    | none => files.contents.lookup place

/-- The file system with text added to the file at a place. -/
def add (place : Place) (text : String) (files : Files) : Files :=
  let before := (files.contents.lookup place).getD ""
  { files with contents := (place, before ++ text) :: files.contents.filter (·.1 ≠ place) }

/-- The file system with text added to a file. -/
def append? (path text : String) (files : Files) : Option Files :=
  (files.file? path).bind fun place =>
    match devices.lookup place with
    | some device => if device.accepts then some files else none
    | none => if temporary.isPrefixOf place then some (files.add place text) else none

end Files

end HandleBridge
