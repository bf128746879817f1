import HandleBridge.Simulation.Library
import HandleBridge.Bridge.State

/-!
# Observation — what can be seen of a step from outside

A step is seen through the events that it added to the journal, the clock, and the probes of the
simulation whose counts it changed.
-/

namespace HandleBridge.Observation

variable {σ : Type}

/-- The clock as it is shown: in a word of 64 bits, so that it starts again from zero. -/
def clock (b : Bridge σ) : UInt64 := UInt64.ofNat b.machine.clock

/-- The events added since the journal had a given length. -/
def since (b : Bridge σ) (length : Nat) : List Event := b.journal.drop length

/-- The handles that were passed to release actions of the caller's, in order. -/
def released (b : Bridge σ) (events : List Event) : List Handle :=
  events.filterMap fun
    | .released r h _ => if (b.resource r).releaser.isScripted then some h else none
    | _ => none

/-- The remarks that are important enough, in order. -/
def remarks (threshold : Level) (events : List Event) : List Remark :=
  events.filterMap fun
    | .remarked r => if threshold.passes r.level then some r else none
    | _ => none

/-- The probes with counts that differ, and their counts now. -/
def disposed (before after : Simulation) : List (Simulation.Probe × Nat) :=
  (after.probes.zipIdx.filter fun e => before.probes[e.2]?.getD 0 ≠ e.1).map fun e =>
    (⟨e.2⟩, e.1)

end HandleBridge.Observation
