import HandleBridge.Bridge.State

/-!
# Bridge/Action — calls that may fail and change the bridge either way

An `Action` takes a bridge and gives a result, or a failure, together with the bridge afterwards: what
was done before a failure stays done.  `attempt` turns a failure into a value to go on with.
-/

namespace HandleBridge

/-- A call with a result. -/
def Action (σ α : Type) := Bridge σ → Except Failure α × Bridge σ

namespace Action

variable {σ α β : Type}

instance : Monad (Action σ) where
  pure a := fun b => (.ok a, b)
  bind x f := fun b =>
    match x b with
    | (.ok a, b') => f a b'
    | (.error e, b') => (.error e, b')

instance : Inhabited (Action σ α) := ⟨fun b => (.error .managerClosed, b)⟩

/-- A call that fails. -/
def fail (e : Failure) : Action σ α := fun b => (.error e, b)

/-- A call with a known result. -/
def ofExcept (r : Except Failure α) : Action σ α := fun b => (r, b)

/-- A call that ends with a failure, if there is one. -/
def ofFailure : Option Failure → Action σ Unit
  | none => pure ()
  | some e => fail e

/-- Reads the bridge. -/
def read (f : Bridge σ → α) : Action σ α := fun b => (.ok (f b), b)

/-- Changes the bridge. -/
def update (f : Bridge σ → Bridge σ) : Action σ Unit := fun b => (.ok (), f b)

/-- Makes a call, and goes on with its result whether or not it failed. -/
def attempt (x : Action σ α) : Action σ (Except Failure α) := fun b =>
  (.ok (x b).1, (x b).2)

/-- Lets the machine run. -/
def run (f : Machine σ → α × Machine σ) : Action σ α := fun b =>
  (.ok (f b.machine).1, b.withMachine (f b.machine).2)

/-- Notes an event. -/
def note (e : Event) : Action σ Unit := update (·.note e)

/-- Notes an event, if there is one. -/
def note? : Option Event → Action σ Unit
  | none => pure ()
  | some e => note e

/-- Tells the observers. -/
def remark (r : Remark) : Action σ Unit := note (.remarked r)

/-- Tells the observers, if there is something to tell. -/
def remark? (r : Option Remark) : Action σ Unit := note? (r.map .remarked)

/-- The clock. -/
def clock : Action σ Nat := read (·.machine.clock)

@[simp] theorem pure_apply (a : α) (b : Bridge σ) : (pure a : Action σ α) b = (.ok a, b) := rfl

theorem bind_apply (x : Action σ α) (f : α → Action σ β) (b : Bridge σ) :
    (x >>= f) b =
      match x b with
      | (.ok a, b') => f a b'
      | (.error e, b') => (.error e, b') := rfl

theorem bind_of_ok {x : Action σ α} {f : α → Action σ β} {b b' : Bridge σ} {a : α}
    (h : x b = (.ok a, b')) : (x >>= f) b = f a b' := by rw [bind_apply, h]

theorem bind_of_error {x : Action σ α} {f : α → Action σ β} {b b' : Bridge σ} {e : Failure}
    (h : x b = (.error e, b')) : (x >>= f) b = (.error e, b') := by rw [bind_apply, h]

theorem map_apply (x : Action σ α) (f : α → β) (b : Bridge σ) :
    (f <$> x) b = ((x b).1.map f, (x b).2) := by
  rw [show (f <$> x) b = (x >>= fun a => pure (f a)) b from rfl, bind_apply]
  rcases x b with ⟨e | a, b'⟩ <;> rfl

@[simp] theorem fail_apply (e : Failure) (b : Bridge σ) :
    (fail e : Action σ α) b = (.error e, b) := rfl

@[simp] theorem ofExcept_apply (r : Except Failure α) (b : Bridge σ) : ofExcept r b = (r, b) := rfl

@[simp] theorem read_apply (f : Bridge σ → α) (b : Bridge σ) : read f b = (.ok (f b), b) := rfl

@[simp] theorem update_apply (f : Bridge σ → Bridge σ) (b : Bridge σ) :
    update f b = (.ok (), f b) := rfl

@[simp] theorem attempt_apply (x : Action σ α) (b : Bridge σ) :
    attempt x b = (.ok (x b).1, (x b).2) := rfl

@[simp] theorem run_apply (f : Machine σ → α × Machine σ) (b : Bridge σ) :
    run f b = (.ok (f b.machine).1, b.withMachine (f b.machine).2) := rfl

@[simp] theorem note_apply (e : Event) (b : Bridge σ) :
    (note e : Action σ Unit) b = (.ok (), b.note e) := rfl

@[simp] theorem remark_apply (r : Remark) (b : Bridge σ) :
    (remark r : Action σ Unit) b = (.ok (), b.note (.remarked r)) := rfl

@[simp] theorem clock_apply (b : Bridge σ) :
    (clock : Action σ Nat) b = (.ok b.machine.clock, b) := rfl

end Action

end HandleBridge
