import HandleBridge.Operation

/-!
# Race — many threads making one call

The calls of a race are made one after the other, in the order of the threads.  A lock around the
state of each object makes every other interleaving look like one of these to the threads, up to who
comes first; so only the outcomes are counted, and not who had them.
-/

namespace HandleBridge.Race

variable {σ α : Type}

/-- The name under which an outcome is counted: what a success says, or the status or else the cause
of a failure. -/
def key (success : α → String) : Except Failure α → String
  | .ok a => success a
  | .error e =>
    match e.status? with
    | some s => s.name
    | none => e.variantName

/-- Outcomes counted by their names. -/
def tally (keys : List String) : List (String × Nat) :=
  keys.foldl (fun counts key => Teardown.increment key counts) []

/-- Runs the threads and counts what their calls came to. -/
def run (threads : Nat) (call : Nat → Action σ String) : Action σ (List (String × Nat)) := do
  return tally (← (List.range threads).mapM call)

/-- All threads close one resource. -/
def close (r : Resource) (threads : Nat) : Action σ (List (String × Nat)) :=
  run threads fun _ => do
    return key (fun _ => "ok") (← .attempt r.close)

/-- What a take in a race came to. -/
def takeText : Option Yield → String
  | some _ => "taken"
  | none => "pending"

/-- All threads take the result of one job: the even ones wait for it, the odd ones do not. -/
def take (j : Job) (threads : Nat) : Action σ (List (String × Nat)) :=
  run threads fun i => do
    let call := if i % 2 = 0 then some <$> j.take none else j.takeIfReady none
    return key takeText (← .attempt call)

/-- The first thread closes a manager while the others close resources.  The resource of a job is
closed without the call that closes the job itself. -/
def teardown (m : Manager) (resources : List Resource) (threads : Nat) :
    Action σ (List (String × Nat)) :=
  run threads fun i => do
    if i = 0 then
      let _ ← .attempt m.close
    else
      for r in resources do
        let _ ← .attempt r.close
    return "ok"

end HandleBridge.Race
