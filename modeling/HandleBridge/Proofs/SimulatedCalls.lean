import HandleBridge.Proofs.Completion
import HandleBridge.Simulation.Library

/-!
# Proofs/SimulatedCalls — what the simulated entry points do to a job that is not closed

An entry point answers as the completion of its job says, and changes nothing but the clock, that
job, and what the context that it was passed keeps.  The last is no part of any answer on a job, so
machines are compared without it: `Machine.Like`.
-/

namespace HandleBridge

variable {α : Type}

/-! ## What contexts keep -/

/-- **The same machine but for what contexts keep.** -/
structure Machine.Like (m m' : Machine Simulation) : Prop where
  clock : m'.clock = m.clock
  jobs : m'.native.jobs = m.native.jobs
  cancelJobs : m'.native.cancelJobs = m.native.cancelJobs
  values : m'.native.values = m.native.values

namespace Machine.Like

variable {m m' : Machine Simulation}

theorem refl (m : Machine Simulation) : Like m m := ⟨rfl, rfl, rfl, rfl⟩

theorem job? (h : Like m m') (target : Option Handle) :
    m'.native.job? target = m.native.job? target := by
  rw [Simulation.job?, h.jobs, Simulation.job?]

theorem cancelJob? (h : Like m m') (target : Option Handle) :
    m'.native.cancelJob? target = m.native.cancelJob? target := by
  rw [Simulation.cancelJob?, h.cancelJobs, Simulation.cancelJob?]

theorem payload? (h : Like m m') : m'.native.payload? = m.native.payload? := by
  funext value
  rw [Simulation.payload?, Simulation.value?, h.values, Simulation.payload?, Simulation.value?]

theorem report (m : Machine Simulation) (c : Option Handle) (latest : Option Simulation.Report) :
    Like m { m with native := m.native.report c latest } := by
  cases c <;> exact ⟨rfl, rfl, rfl, rfl⟩

end Machine.Like

namespace Simulation

open Simulation.Job

/-- **An answer, and the machine that is left** but for what contexts keep. -/
structure Gives (x : Answer α × Machine Simulation) (a : Answer α) (m : Machine Simulation) :
    Prop where
  answer : x.1 = a
  machine : m.Like x.2

theorem gives_accept (c : Option Handle) (written : α) (m : Machine Simulation) :
    Gives (accept c written m) ⟨.ok, written⟩ m := ⟨rfl, .report m c _⟩

theorem gives_refuse (c : Option Handle) (r : Report) (written : α) (m : Machine Simulation) :
    Gives (refuse c r written m) ⟨r.status, written⟩ m := ⟨rfl, .report m c _⟩

/-! ## Objects that were changed -/

theorem job?_setJob {s : Simulation} {h : Handle} {j : Job} (hj : s.job? (some h) = some j)
    (j' : Job) : (s.setJob h j').job? (some h) = some j' := by
  obtain ⟨hlt, -⟩ := List.getElem?_eq_some_iff.1 hj
  exact List.getElem?_set_self hlt

theorem payload?_newValue (s : Simulation) (v : Value) :
    (s.newValue v).2.payload? (s.newValue v).1 = some v.payload := by
  simp [newValue, payload?, value?]

theorem cancelJob?_newCancelJob (s : Simulation) (k : CancelJob) :
    (s.newCancelJob k).2.cancelJob? (some (s.newCancelJob k).1) = some k := by
  simp [newCancelJob, cancelJob?]

/-- Cancel jobs are never moved. -/
theorem cancelJob?_newCancelJob_of_some {s : Simulation} {target : Option Handle} {k : CancelJob}
    (h : s.cancelJob? target = some k) (k' : CancelJob) :
    (s.newCancelJob k').2.cancelJob? target = some k := by
  obtain ⟨t, rfl, ht⟩ := Option.bind_eq_some_iff.1 h
  obtain ⟨hlt, -⟩ := List.getElem?_eq_some_iff.1 ht
  exact (List.getElem?_append_left hlt).trans ht

/-! ## Calls on a job -/

section Jobs

variable {m : Machine Simulation} {h : Handle} {j : Job} (hj : m.native.job? (some h) = some j)
  (c : Option Handle)

include hj

theorem onJob_apply (nothing : α) (f : Handle → Job → Call Simulation α) :
    onJob c (some h) nothing f m = f h j m := by
  unfold onJob
  rw [hj]

theorem jobName_gives : Gives (jobName c (some h) true m) ⟨.ok, some (spelled j.spec.name)⟩ m := by
  rw [jobName, onJob_apply hj c]
  exact gives_accept c _ m

variable (hopen : j.closed = false)

include hopen

/-- A job that is not closed lets the call through. -/
theorem onOpenJob_apply (symbol : Symbol) (position : Nat) (nothing : α)
    (f : Handle → Job → Call Simulation α) :
    onOpenJob symbol position c (some h) true nothing f m = f h j m := by
  rw [onOpenJob, onJob_apply hj c]
  change (if j.closed then _ else _ : Call Simulation α) m = _
  rw [if_neg (Bool.eq_false_iff.1 hopen)]

theorem jobWait_gives (limit : Nat) :
    Gives (jobWait c (some h) limit true m) ⟨.ok, some (await j.due (some limit) m.clock).1⟩
      { m with clock := (await j.due (some limit) m.clock).2 } := by
  rw [jobWait, onOpenJob_apply hj c hopen]
  exact gives_accept c _ _

theorem jobIsDone_gives :
    Gives (jobIsDone c (some h) true m) ⟨.ok, some (j.isDone m.clock)⟩ m := by
  rw [jobIsDone, onOpenJob_apply hj c hopen]
  exact gives_accept c _ _

theorem jobCancel_gives :
    Gives (jobCancel c (some h) true m)
      ⟨.ok, some (await (j.cancelUnlessDone m.clock).due none m.clock).1⟩
      ⟨(await (j.cancelUnlessDone m.clock).due none m.clock).2,
        m.native.setJob h (j.cancelUnlessDone m.clock)⟩ := by
  rw [jobCancel, onOpenJob_apply hj c hopen]
  exact gives_accept c _ _

theorem jobCancelFor_gives (limit : Nat) :
    Gives (jobCancelFor c (some h) limit true m)
      ⟨.ok, some (await (j.cancelUnlessDone m.clock).due (some limit) m.clock).1⟩
      ⟨(await (j.cancelUnlessDone m.clock).due (some limit) m.clock).2,
        m.native.setJob h (j.cancelUnlessDone m.clock)⟩ := by
  rw [jobCancelFor, onOpenJob_apply hj c hopen]
  exact gives_accept c _ _

/-- There is nothing to track when the job is done or was cancelled before. -/
theorem jobCancelAsync_gives_none (hno : j.isDone m.clock = true ∨ j.cancelAt.isSome = true) :
    Gives (jobCancelAsync c (some h) true m) ⟨.ok, none⟩ m := by
  rw [jobCancelAsync, onOpenJob_apply hj c hopen, if_pos (Bool.or_eq_true_iff.2 hno)]
  exact gives_accept c _ m

/-- The first cancel request of a job that is not done is tracked by a new object. -/
theorem jobCancelAsync_gives_some (hnot : j.isDone m.clock = false) (hnone : j.cancelAt = none) :
    let doneAt := m.clock + j.spec.cancelLatency
    let tracked :=
      (m.native.setJob h { j with cancelAt := some doneAt }).newCancelJob
        ⟨doneAt, j.spec.cancelProbe⟩
    Gives (jobCancelAsync c (some h) true m) ⟨.ok, some tracked.1⟩ ⟨m.clock, tracked.2⟩ := by
  rw [jobCancelAsync, onOpenJob_apply hj c hopen, if_neg (by simp [hnot, hnone])]
  exact gives_accept c _ _

end Jobs

/-! ## Calls on a cancel job -/

section CancelJobs

variable {m : Machine Simulation} {t : Handle} {k : CancelJob}
  (hk : m.native.cancelJob? (some t) = some k) (c : Option Handle)

include hk

theorem cancelJobWait_gives (limit : Nat) :
    Gives (cancelJobWait c (some t) limit true m)
      ⟨.ok, some (await (some k.doneAt) (some limit) m.clock).1⟩
      { m with clock := (await (some k.doneAt) (some limit) m.clock).2 } := by
  rw [cancelJobWait, onCancelJob, hk]
  exact gives_accept c _ _

theorem cancelJobIsDone_gives :
    Gives (cancelJobIsDone c (some t) true m) ⟨.ok, some (k.doneAt ≤ m.clock)⟩ m := by
  rw [cancelJobIsDone, onCancelJob, hk]
  exact gives_accept c _ m

end CancelJobs

/-! ## Takes -/

/-- A take of either mode, with what it writes in the form of the one that may find nothing yet. -/
def takeCall (c : Option Handle) (h : Handle) (m : Machine Simulation) :
    TakeMode → Answer (Option (Option Handle)) × Machine Simulation
  | .blocking => (jobTake c (some h) true m).map (Answer.map some) id
  | .bounded limit =>
    (jobTakeFor c (some h) (Duration.saturate limit) true m).map (Answer.map some) id
  | .ifReady =>
    (jobTakeIfReady c (some h) true true m).map
      (Answer.map fun (ready, value) => if ready.getD false then some value else none) id

/-- Is this the answer of a take that finds something? -/
inductive Finds (native : Simulation) :
    Except Status (Option (Option Int)) → Answer (Option (Option Handle)) → Prop where
  | refused {status : Status} (written : Option (Option Handle)) (failed : status.isOk = false) :
    Finds native (.error status) ⟨status, written⟩
  | notYet : Finds native (.ok none) ⟨.ok, none⟩
  | result {payload : Option Int} {value : Option Handle}
    (holds : value.map native.payload? = payload.map some) :
    Finds native (.ok (some payload)) ⟨.ok, some value⟩

/-- **What a take comes to**: the clock, the job and the answer afterwards. -/
structure Serves (m : Machine Simulation) (h : Handle) (clock : Nat) (j : Job)
    (found : Except Status (Option (Option Int)))
    (x : Answer (Option (Option Handle)) × Machine Simulation) : Prop where
  clock : x.2.clock = clock
  job : x.2.native.job? (some h) = some j
  cancelJobs : x.2.native.cancelJobs = m.native.cancelJobs
  answer : Finds x.2.native found x.1

namespace Gives

variable {m m' : Machine Simulation} {h : Handle} {clock : Nat} {j : Job}
  {x : Answer (Option (Option Handle)) × Machine Simulation}
  {a : Answer (Option (Option Handle))} {found : Except Status (Option (Option Int))}

/-- What a take comes to can be read off the answer and the machine that are given. -/
theorem serves (hx : Gives x a m') (hclock : m'.clock = clock)
    (hj : m'.native.job? (some h) = some j)
    (hcancel : m'.native.cancelJobs = m.native.cancelJobs) (hfound : Finds m'.native found a) :
    Serves m h clock j found x := by
  refine ⟨hx.machine.clock.trans hclock, (hx.machine.job? _).trans hj,
    hx.machine.cancelJobs.trans hcancel, ?_⟩
  rw [hx.answer]
  cases hfound with
  | refused written failed => exact .refused written failed
  | notYet => exact .notYet
  | result holds => exact .result (by rwa [hx.machine.payload?])

/-- The same call with what it writes in another form. -/
theorem map {β γ : Type} {x : Answer β × Machine Simulation} {a : Answer β} (hx : Gives x a m)
    (f : β → γ) : Gives (x.map (Answer.map f) id) (a.map f) m :=
  ⟨congrArg (Answer.map f) hx.answer, hx.machine⟩

end Gives

section Takes

variable {m : Machine Simulation} {h : Handle} {j : Job} (hj : m.native.job? (some h) = some j)
  (c : Option Handle)

include hj

/-- **What came to the completion of a job consumes it**, and is given what the job has for it. -/
theorem consume_serves :
    Serves m h m.clock { j with taken := true } (j.verdict.map some)
      ((consume c h j m).map (Answer.map some) id) := by
  rw [consume, verdict, ending]
  cases htaken : j.taken with
  | true =>
    have hsame : { j with taken := true } = j := by rw [← htaken]
    rw [hsame]
    exact ((gives_refuse c _ none m).map some).serves rfl hj rfl (.refused _ rfl)
  | false =>
    let m₁ : Machine Simulation := { m with native := m.native.setJob h { j with taken := true } }
    have hj₁ : m₁.native.job? (some h) = some { j with taken := true } := job?_setJob hj _
    simp only [Bool.false_or, Bool.false_eq_true, if_false, decide_eq_true_eq]
    split
    · exact ((gives_refuse c _ none m₁).map some).serves rfl hj₁ rfl (.refused _ rfl)
    · cases j.spec.outcome with
      | value payload =>
        let made := m₁.native.newValue ⟨payload, j.spec.valueProbe⟩
        have hpayload : made.2.payload? made.1 = some payload := payload?_newValue m₁.native _
        exact ((gives_accept c (some made.1) ⟨m.clock, made.2⟩).map some).serves rfl hj₁ rfl
          (.result (congrArg some hpayload))
      | void => exact ((gives_accept c none m₁).map some).serves rfl hj₁ rfl (.result rfl)
      | serverError message detail =>
        exact ((gives_refuse c _ none m₁).map some).serves rfl hj₁ rfl (.refused _ rfl)

/-- **A take waits as its mode says**, and consumes the job if that brought it to the completion. -/
theorem takeCall_serves (hopen : j.closed = false) (mode : TakeMode) :
    Serves m h (j.attend m.clock mode).2 (j.taking m.clock mode) (j.found m.clock mode)
      (takeCall c h m mode) := by
  have hcome (clock : Nat) := consume_serves (m := { m with clock }) hj c
  cases mode with
  | blocking =>
    rw [takeCall, jobTake, onOpenJob_apply hj c hopen, found, taking, attend]
    rcases hdue : j.due with _ | instant
    · exact ((gives_refuse c _ none m).map some).serves rfl hj rfl (.refused _ rfl)
    · exact ⟨(hcome _).clock, (hcome _).job, (hcome _).cancelJobs, (hcome _).answer⟩
  | bounded limit =>
    rw [takeCall, jobTakeFor, onOpenJob_apply hj c hopen, found, taking, attend, waiting]
    rcases await j.due (some (Duration.saturate limit)) m.clock with ⟨_ | _, clock⟩
    · exact ((gives_refuse c _ none { m with clock }).map some).serves rfl hj rfl (.refused _ rfl)
    · exact ⟨(hcome _).clock, (hcome _).job, (hcome _).cancelJobs, (hcome _).answer⟩
  | ifReady =>
    rw [takeCall, jobTakeIfReady, onJob_apply hj c, found, taking, attend]
    change Serves m h _ _ _ (((if j.closed then _ else _ : Call Simulation _) m).map _ id)
    rw [if_neg (Bool.eq_false_iff.1 hopen)]
    cases j.isDone m.clock with
    | false => exact ((gives_accept c (some false, none) m).map _).serves rfl hj rfl .notYet
    | true => exact ⟨(hcome _).clock, (hcome _).job, (hcome _).cancelJobs, (hcome _).answer⟩

end Takes

end Simulation

end HandleBridge
