import HandleBridge.Config
import HandleBridge.Native.Library
import HandleBridge.Teardown
import HandleBridge.Bridge.Log
import HandleBridge.Bridge.Registry
import HandleBridge.Bridge.Scratch
import HandleBridge.Bridge.Table

/-!
# Bridge/State — everything that calls of the bridge read and change

A `Bridge` holds the machine with the native library's memory, the wrapped objects, scratch memory,
what belongs to the process as a whole, and a journal of what happened.  Objects are never removed
from their tables; a released one stays behind, closed.
-/

namespace HandleBridge

variable {σ : Type}

/-! ## Managers -/

/-- The region that a scope's scratch memory is charged to. -/
structure Region where
  capacity : Nat
  /-- Cells taken so far. -/
  used : Nat
  deriving DecidableEq, Repr, Inhabited

namespace Region

/-- The memory of the machine.  A region is taken from it as a whole when the scope is opened. -/
def memory : Nat := 32 * 1024 * 1024 * 1024

/-- A region that nothing was taken from, if there is room for it. -/
def ofCapacity? (capacity : Nat) : Option Region :=
  if capacity < memory then some ⟨capacity, 0⟩ else none

/-- What the region holds on to. -/
def bytes (r : Region) : Nat := max r.capacity r.used

/-- The region with cells taken. -/
def take (r : Region) (cells : Nat) : Region := { r with used := r.used + cells }

end Region

/-- How far the life of a scope has come.  A scope keeps its region until everything in it was
released. -/
inductive Phase where
  | live (region : Region)
  /-- The scope is closed, and what was left in it is being released. -/
  | ending (region : Region)
  | ended
  deriving DecidableEq, Repr

namespace Phase

/-- What the scope holds on to. -/
def bytes : Phase → Nat
  | live region | ending region => region.bytes
  | ended => 0

/-- The phase with the region changed. -/
def map (f : Region → Region) : Phase → Phase
  | live region => live (f region)
  | ending region => ending (f region)
  | ended => ended

@[simp] theorem map_eq_ended (f : Region → Region) (s : Phase) : s.map f = ended ↔ s = ended := by
  cases s <;> simp [map]

/-- The phase once the scope is closed. -/
def close : Phase → Phase
  | live region | ending region => ending region
  | ended => ended

@[simp] theorem close_eq_ended (p : Phase) : p.close = ended ↔ p = ended := by
  cases p <;> simp [close]

/-- The phase once everything in a closed scope was released. -/
def finish : Phase → Phase
  | live region => live region
  | ending _ | ended => ended

end Phase

/-- A scope. -/
structure Manager.State where
  registry : Registry
  /-- The number of the next resource. -/
  nextId : Nat
  phase : Phase
  /-- Is the wrapper gone? -/
  dropped : Bool
  deriving DecidableEq, Repr

namespace Manager.State

/-- A new scope. -/
def ofRegion (region : Region) : State := ⟨[], 1, .live region, false⟩

instance : Inhabited State := ⟨⟨[], 1, .ended, true⟩⟩

/-- Is the scope closed? -/
def closed (s : State) : Bool :=
  match s.phase with
  | .live _ => false
  | .ending _ | .ended => true

/-- An open scope has its region. -/
theorem phase_ne_ended {s : State} (h : s.closed = false) : s.phase ≠ .ended := by
  intro hended
  rw [closed, hended] at h
  cases h

/-- The scope closed, with nothing left in it. -/
def shut (s : State) : State := { s with registry := [], phase := s.phase.close }

@[simp] theorem closed_shut (s : State) : s.shut.closed = true := by
  rw [closed, shut]
  cases s.phase <;> rfl

/-- The closed scope without its region. -/
def handBack (s : State) : State := { s with phase := s.phase.finish }

@[simp] theorem closed_handBack (s : State) : s.handBack.closed = s.closed := by
  rw [closed, handBack, closed]
  cases s.phase <;> rfl

/-- The scope with its wrapper gone. -/
def forsake (s : State) : State := { s with dropped := true }

/-- The scope with a number given out. -/
def number (s : State) : State := { s with nextId := s.nextId + 1 }

/-- The scope with a resource registered under a number. -/
def enter (s : State) (id : Nat) (r : Resource) : State :=
  { s with registry := s.registry.insert id r }

/-- The scope with a number out of the registry. -/
def withdraw (s : State) (id : Nat) : State := { s with registry := s.registry.erase id }

/-- The scope with cells charged to its region. -/
def charge (s : State) (cells : Nat) : State := { s with phase := s.phase.map (·.take cells) }

end Manager.State

/-! ## Native objects -/

/-- What is done with a handle in the end. -/
inductive Releaser (σ : Type) where
  /-- An action of the caller's takes some time and may fail. -/
  | scripted (pause : Nat) (failure : Option Failure)
  /-- The native library disposes of the object, through an entry point if it exports one, and
  afterwards the release may be declared failed. -/
  | native (symbol : Option Symbol) (dispose : Handle → Machine σ → Machine σ)
      (failure : Option Failure)

instance : Inhabited (Releaser σ) := ⟨.scripted 0 none⟩

namespace Releaser

/-- Is it an action of the caller's? -/
def isScripted : Releaser σ → Bool
  | scripted .. => true
  | native .. => false

/-- The failure that the action ends with. -/
def failure : Releaser σ → Option Failure
  | scripted _ failure | native _ _ failure => failure

/-- The entry point that the action calls. -/
def symbol : Releaser σ → Option Symbol
  | scripted .. => none
  | native symbol .. => symbol

/-- What the action does to the machine. -/
def run (h : Handle) (m : Machine σ) : Releaser σ → Machine σ
  | scripted pause _ => { m with clock := m.clock + pause }
  | native _ dispose _ => dispose h m

end Releaser

/-- A native object under management. -/
structure Resource.State (σ : Type) where
  /-- The number that its manager gave it. -/
  id : Nat
  manager : Manager
  kind : Kind
  /-- The handle it was adopted with. -/
  handle : Handle
  releaser : Releaser σ
  /-- When it was adopted. -/
  created : Nat
  closed : Bool

instance : Inhabited (Resource.State σ) :=
  ⟨⟨0, ⟨0⟩, .value, default, default, 0, true⟩⟩

/-- The resource, closed. -/
def Resource.State.shut (s : Resource.State σ) : Resource.State σ := { s with closed := true }

/-- A wrapped diagnostic context. -/
structure Context.State (σ : Type) where
  resource : Resource
  library : Library σ
  deriving Inhabited

/-- What is made of the result of a job. -/
inductive Converter (σ : Type) where
  /-- Nothing: the job is waited for and no more. -/
  | void
  /-- A resource, with the way it is disposed of and the failure that the release ends with. -/
  | adopt (kind : Kind) (dispose : Handle → Machine σ → Machine σ) (failure : Option Failure)
  /-- A description. -/
  | inspect
  /-- A failure. -/
  | reject (failure : Failure)

instance : Inhabited (Converter σ) := ⟨.void⟩

/-- A wrapped job. -/
structure Job.State (σ : Type) where
  resource : Resource
  library : Library σ
  converter : Converter σ
  /-- Was the result consumed? -/
  taken : Bool
  /-- The job's name, once it was looked up. -/
  name : Option String
  deriving Inhabited

/-- The job with its result consumed. -/
def Job.State.markTaken (s : Job.State σ) : Job.State σ := { s with taken := true }

/-- The job with its name looked up. -/
def Job.State.remember (s : Job.State σ) (name : String) : Job.State σ :=
  { s with name := some name }

/-- A wrapped cancel request. -/
structure Cancellation.State (σ : Type) where
  resource : Resource
  library : Library σ
  deriving Inhabited

/-! ## The process -/

/-- The trace: its format, the least important level that it shows, and how much of the journal had
been written when it was set up. -/
structure Trace where
  json : Bool
  threshold : Option Level
  since : Nat
  deriving DecidableEq, Repr, Inhabited

/-- What belongs to the process as a whole. -/
structure Process (σ : Type) where
  environment : Environment
  /-- The library that everyone shares, once it was loaded. -/
  shared : Option (Library σ)
  loggerInitialized : Bool
  trace : Option Trace
  deriving Inhabited

/-! ## The journal -/

/-- Something that happened. -/
inductive Event where
  /-- An entry point was called. -/
  | called (symbol : Symbol) (target : Option Handle)
  /-- The release action of a resource ran. -/
  | released (resource : Resource) (handle : Handle) (failure : Option Failure)
  /-- The converter of a job was invoked. -/
  | converted (job : Job) (value : Option Handle)
  /-- Observers were told. -/
  | remarked (remark : Remark)
  deriving Repr, Inhabited

/-! ## The bridge -/

/-- Everything that calls of the bridge read and change. -/
structure Bridge (σ : Type) where
  machine : Machine σ
  managers : Table Manager.State
  resources : Table (Resource.State σ)
  contexts : Table (Context.State σ)
  jobs : Table (Job.State σ)
  cancellations : Table (Cancellation.State σ)
  scratch : Scratch
  process : Process σ
  journal : List Event

namespace Bridge

/-- A process that has just been started. -/
def start (native : σ) (environment : Environment) : Bridge σ where
  machine := ⟨0, native⟩
  managers := .empty
  resources := .empty
  contexts := .empty
  jobs := .empty
  cancellations := .empty
  scratch := ⟨[], []⟩
  process := ⟨environment, none, false, none⟩
  journal := []

variable (b : Bridge σ)

/-- The state of a manager. -/
def manager (m : Manager) : Manager.State := b.managers.get m.index

/-- The state of a resource. -/
def resource (r : Resource) : Resource.State σ := b.resources.get r.index

/-- The state of a context. -/
def context (c : Context) : Context.State σ := b.contexts.get c.index

/-- The state of a job. -/
def job (j : Job) : Job.State σ := b.jobs.get j.index

/-- The state of a cancel request. -/
def cancellation (c : Cancellation) : Cancellation.State σ := b.cancellations.get c.index

/-! ### Changes -/

/-- The bridge with another machine. -/
def withMachine (m : Machine σ) : Bridge σ := { b with machine := m }

/-- The bridge with other scratch memory. -/
def withScratch (s : Scratch) : Bridge σ := { b with scratch := s }

/-- The bridge with what belongs to the process changed. -/
def modifyProcess (f : Process σ → Process σ) : Bridge σ := { b with process := f b.process }

/-- The bridge with a manager more. -/
def addManager (s : Manager.State) : Bridge σ := { b with managers := b.managers.add s }

/-- The bridge with a resource more. -/
def addResource (s : Resource.State σ) : Bridge σ := { b with resources := b.resources.add s }

/-- The bridge with a context more. -/
def addContext (s : Context.State σ) : Bridge σ := { b with contexts := b.contexts.add s }

/-- The bridge with a job more. -/
def addJob (s : Job.State σ) : Bridge σ := { b with jobs := b.jobs.add s }

/-- The bridge with a cancel request more. -/
def addCancellation (s : Cancellation.State σ) : Bridge σ :=
  { b with cancellations := b.cancellations.add s }

/-- The bridge with the state of a manager changed. -/
def modifyManager (m : Manager) (f : Manager.State → Manager.State) : Bridge σ :=
  { b with managers := b.managers.modify m.index f }

/-- The bridge with the state of a resource changed. -/
def modifyResource (r : Resource) (f : Resource.State σ → Resource.State σ) : Bridge σ :=
  { b with resources := b.resources.modify r.index f }

/-- The bridge with the state of a job changed. -/
def modifyJob (j : Job) (f : Job.State σ → Job.State σ) : Bridge σ :=
  { b with jobs := b.jobs.modify j.index f }

/-- The bridge with an event noted. -/
def note (e : Event) : Bridge σ := { b with journal := b.journal ++ [e] }

/-! ### Owners of a region -/

/-- Has the region of a scope an owner?  Its scope is one until it hands the region back, and so is
every buffer of the region that is in somebody's hands. -/
def Owned (m : Manager) : Prop :=
  (b.manager m).phase ≠ .ended ∨ ∃ buffer ∈ b.scratch.held, buffer.region = m

instance (m : Manager) : Decidable (b.Owned m) := inferInstanceAs (Decidable (_ ∨ _))

/-- The bridge after an owner of a region is gone: without any the cells are freed. -/
def reclaim (m : Manager) : Bridge σ :=
  if b.Owned m then b else b.withScratch (b.scratch.free m)

/-- The bridge after the scope handed its region back. -/
def handBack (m : Manager) : Bridge σ := (b.modifyManager m (·.handBack)).reclaim m

/-- The bridge after a buffer was let go of. -/
def letGo (buffer : Buffer) : Bridge σ :=
  (b.withScratch (b.scratch.letGo buffer)).reclaim buffer.region

/-- What becomes of a region shows in scratch memory and nowhere else. -/
theorem reclaim_eq (m : Manager) : ∃ s, b.reclaim m = b.withScratch s := by
  rw [reclaim]
  split
  · exact ⟨b.scratch, rfl⟩
  · exact ⟨_, rfl⟩

@[simp] theorem machine_reclaim (m : Manager) : (b.reclaim m).machine = b.machine := by
  obtain ⟨s, heq⟩ := b.reclaim_eq m
  rw [heq, withScratch]

theorem letGo_eq (buffer : Buffer) : ∃ s, b.letGo buffer = b.withScratch s :=
  reclaim_eq _ _

end Bridge

end HandleBridge
