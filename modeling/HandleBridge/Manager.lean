import HandleBridge.Identity
import HandleBridge.Resource

/-!
# Manager — a scope that releases what is left in it

A manager keeps a registry of the open resources that it adopted, and a region that scratch memory
is charged to.  Closing it releases the registered resources, the newest first, and then hands the
region back; failures are collected and do not stop the rest.  A closed manager stays closed.  The
buffers that are still in somebody's hands keep the cells of its region.
-/

namespace HandleBridge.Manager

variable {σ : Type}

/-! ## The scope -/

/-- What is said when there is no room for the region of a scope. -/
def outOfMemory : String := "out of memory"

/-- Opens a scope, if there is room for its region. -/
def create (capacity : Nat) : Action σ (Option Manager) := do
  match Region.ofCapacity? capacity with
  | none => return none
  | some region =>
    let m : Manager := ⟨← .read (·.managers.size)⟩
    .update (·.addManager (.ofRegion region))
    .remark (.managerCreated capacity)
    return some m

/-- Releases resources one after the other.  Those that are closed already do not count. -/
def releaseAll : Registry → Teardown → List Failure → Action σ (Teardown × List Failure)
  | [], outcome, failures => return (outcome, failures)
  | (_, r) :: rest, outcome, failures => do
    let s ← .read (·.resource r)
    match ← .attempt r.release with
    | .ok true => releaseAll rest (outcome.record s.kind.text false) failures
    | .ok false => releaseAll rest outcome failures
    | .error e =>
      .remark (.stragglerReleaseFailed s.id s.kind e)
      releaseAll rest (outcome.record s.kind.text true) (failures ++ [e])

/-- Ends the scope.  A closed one has nothing to release. -/
def close (m : Manager) : Action σ Teardown := do
  let s ← .read (·.manager m)
  if s.closed then return .empty
  else
    .update (·.modifyManager m (·.shut))
    let start ← .clock
    let (outcome, failures) ← releaseAll s.registry .empty []
    let micros := Duration.micros ((← .clock) - start)
    .update (·.handBack m)
    let outcome := { outcome with micros, bytes := s.phase.bytes }
    .remark (.managerClosed outcome.disposed outcome.errors micros)
    .remark? (Remark.ofTeardown (micros.toNat * 1000))
    .ofFailure (Failure.aggregate failures)
    return outcome

/-- Ends the wrapper of a scope, and the scope if it is open. -/
def drop (m : Manager) : Action σ Unit := do
  unless (← .read (·.manager m)).closed do
    match ← .attempt m.close with
    | .ok outcome =>
      if 0 < outcome.disposed then .remark (.stragglersReleasedOnDrop outcome.disposed)
    | .error e => .remark (.managerDropFailed e)
  .update (·.modifyManager m (·.forsake))

/-! ## The registry -/

/-- The resource belongs elsewhere. -/
def foreign (s : Resource.State σ) : Failure :=
  .argument (s.kind.text ++ " #" ++ toString s.id ++ " belongs to another resource manager")

/-- Registers an open resource that the manager adopted.  A registered one stays as it is. -/
def register (m : Manager) (r : Resource) : Action σ Unit := do
  let s ← .read (·.resource r)
  if (← .read (·.manager s.manager)).dropped then .fail .managerClosed
  else if s.manager ≠ m then .fail (foreign s)
  else if s.closed then .fail (.alreadyClosed s.kind)
  else if (← .read (·.manager m)).closed then .fail .managerClosed
  else .update (·.modifyManager m (·.enter s.id r))

/-- Takes the resource with the number of a given one out of the registry, and says whether there was
one.  It will not be released with the scope. -/
def deregister (m : Manager) (r : Resource) : Action σ Bool := do
  let s ← .read (·.resource r)
  let found := (← .read (·.manager m)).registry.holds s.id
  if found then
    .update (·.modifyManager m (·.withdraw s.id))
    .remark (.deregistered s.id s.kind)
  return found

/-- Is the resource registered? -/
def contains (b : Bridge σ) (m : Manager) (r : Resource) : Bool :=
  (b.manager m).registry.contains (b.resource r).id r

/-- The number of registered resources. -/
def liveCount (b : Bridge σ) (m : Manager) : Nat := (b.manager m).registry.length

/-- Does the manager hold on to scratch memory? -/
def hasMemory (b : Bridge σ) (m : Manager) : Bool := 0 < (b.manager m).phase.bytes

/-! ## Scratch memory -/

/-- Runs an allocation if the scope is open, and charges its region for the places that it took. -/
def allocating {α : Type} (m : Manager) (f : Scratch → Except Failure α × Scratch) :
    Action σ α := do
  if (← .read (·.manager m)).closed then .fail .managerClosed
  else
    let before ← .read (·.scratch)
    let (result, after) := f before
    .update (·.withScratch after)
    .update (·.modifyManager m (·.charge (after.slots.length - before.slots.length)))
    .ofExcept result

/-- Takes fresh cells. -/
def allocate (m : Manager) (cells : List Cell) : Action σ Buffer :=
  m.allocating fun scratch =>
    let (buffer, scratch) := scratch.allocate m cells
    (.ok buffer, scratch)

/-- Takes fresh cells and spells a text in them. -/
def allocateText (m : Manager) (text : String) : Action σ Buffer :=
  m.allocating fun scratch =>
    match scratch.allocateText m text with
    | .ok (buffer, scratch) => (.ok buffer, scratch)
    | .error e => (.error e, scratch)

/-- Takes fresh cells and spells texts in them, then takes an array of their addresses. -/
def allocateTexts (m : Manager) (texts : List String) : Action σ Buffer :=
  m.allocating fun scratch =>
    match scratch.allocateTexts m texts with
    | (.ok starts, scratch) =>
      let (buffer, scratch) := scratch.allocate m (starts.map .place)
      (.ok buffer, scratch)
    | (.error e, scratch) => (.error e, scratch)

/-- Takes fresh cells for handles. -/
def allocateHandles (m : Manager) (handles : List Handle) : Action σ Buffer :=
  m.allocate (handles.map fun h => .ofHandle (some h))

/-- Hands a buffer out, to be kept for as long as its holder likes.  What a call allocates for
itself it lets go of before it returns, when the scope is still open, so that needs no share in the
region. -/
def handOut (buffer : Buffer) : Action σ Buffer := do
  .update fun b => b.withScratch (b.scratch.hold buffer)
  return buffer

/-- Writes a cell of a buffer. -/
def put (buffer : Buffer) (offset : Nat) (cell : Cell) : Action σ Unit :=
  .update fun b => b.withScratch (b.scratch.write buffer offset cell)

/-- The identifier of a scope, which tells as many scopes apart as it has values. -/
def identity (m : Manager) : Identity := ⟨m.index % Nat.pow 16 32, Nat.mod_lt _ (by decide)⟩

/-- What a manager shows to people who debug. -/
def debugText (s : Manager.State) (identity : String) : String :=
  "ResourceManager \x7b id: ManagerId(" ++ identity ++ "), closed: " ++ toString s.closed ++
    ", live: " ++ toString s.registry.length ++ " \x7d"

end HandleBridge.Manager

namespace HandleBridge.Resource

variable {σ : Type}

/-- Takes fresh cells from the manager of a resource. -/
def allocate (r : Resource) (cells : List Cell) : Action σ Buffer := do
  let s ← .read (·.resource r)
  s.manager.allocate cells

end HandleBridge.Resource
