import HandleBridge.Proofs.ClosedContexts
import HandleBridge.Proofs.SimulatedTakes

/-!
# Proofs/Driving — runs that drive one job of the simulated library

A run drives a job if it is made of calls on that job, of calls on open cancel requests, and of time
that passes; contexts are open when they are passed.  No such call closes anything, so the job stays
open from the start of the run to its end, and each step leaves a native job that follows the one
before (`Run.driven`).  Calls that are passed a closed context change nothing and may stand between.
-/

namespace HandleBridge

open HandleBridge.Action Bridge Simulation

variable {α : Type}

/-- **Time passes**: the clock may go on, and jobs and cancel requests stay as they are. -/
structure Simulation.Elapses (m m' : Machine Simulation) : Prop where
  clock : m.clock ≤ m'.clock
  job : ∀ h J, m.native.job? h = some J → m'.native.job? h = some J
  cancelJob : ∀ t k, m.native.cancelJob? t = some k → m'.native.cancelJob? t = some k

/-- To let the clock go on is to let time pass. -/
theorem Simulation.Elapses.advance (m : Machine Simulation) (span : Nat) :
    Elapses m { m with clock := m.clock + span } :=
  ⟨Nat.le_add_right _ _, fun _ _ => id, fun _ _ => id⟩

namespace Operation

/-- **Is a call one of those that drive a job?** -/
def Drives (b : Bridge Simulation) (j : Job) : {α : Type} → Operation Simulation α → Prop
  | _, jobName j' ctx | _, jobWait j' ctx _ | _, jobIsDone j' ctx => j' = j ∧ b.Fit ctx
  | _, jobTake j' ctx | _, jobTakeFor j' ctx _ | _, jobTakeIfReady j' ctx => j' = j ∧ b.Fit ctx
  | _, jobCancel j' ctx | _, jobCancelFor j' ctx _ | _, jobCancelAsync j' ctx => j' = j ∧ b.Fit ctx
  | _, cancellationWait c ctx _ | _, cancellationIsDone c ctx => (∃ k, b.Tracks c k) ∧ b.Fit ctx
  | _, outside change => Elapses b.machine (change b.machine)
  | _, _ => False

/-- Would a call drive a job, but for a closed context? -/
def Barred (b : Bridge Simulation) (j : Job) : {α : Type} → Operation Simulation α → Prop
  | _, jobName j' ctx | _, jobWait j' ctx _ | _, jobIsDone j' ctx => j' = j ∧ b.passed ctx = none
  | _, jobTake j' ctx | _, jobTakeFor j' ctx _ | _, jobTakeIfReady j' ctx =>
    j' = j ∧ b.passed ctx = none
  | _, jobCancel j' ctx | _, jobCancelFor j' ctx _ | _, jobCancelAsync j' ctx =>
    j' = j ∧ b.passed ctx = none
  | _, cancellationWait _ ctx _ | _, cancellationIsDone _ ctx => b.passed ctx = none
  | _, _ => False

/-- The job that a call requests to cancel. -/
def cancelled? : {α : Type} → Operation Simulation α → Option Job
  | _, jobCancel j _ => some j
  | _, jobCancelFor j _ _ => some j
  | _, jobCancelAsync j _ => some j
  | _, _ => none

/-- The native job after a call other than a take. -/
def settled (op : Operation Simulation α) (J : Simulation.Job) (now : Nat) : Simulation.Job :=
  if op.cancelled?.isSome then J.cancelUnlessDone now else J

variable {b : Bridge Simulation} {j : Job} {J : Simulation.Job} {op : Operation Simulation α}

theorem take_of_drives (hop : op.Drives b j) {j' : Job} {ctx : Option Context} {mode : TakeMode}
    (htake : op.take? = some (j', ctx, mode)) : j' = j ∧ b.Fit ctx := by
  cases op with
  | jobTake => cases htake; exact hop
  | jobTakeFor => cases htake; exact hop
  | jobTakeIfReady => cases htake; exact hop
  | _ => cases htake

theorem cancelled_of_take {j' : Job} {ctx : Option Context} {mode : TakeMode}
    (htake : op.take? = some (j', ctx, mode)) : op.cancelled? = none := by
  cases op with
  | jobTake => rfl
  | jobTakeFor => rfl
  | jobTakeIfReady => rfl
  | _ => cases htake

/-- **What a call other than a take does to the job that it drives.** -/
theorem leaves_of_not_take (hs : b.Stands j J) (hop : op.Drives b j) (htake : op.take? = none) :
    ∃ clock, b.machine.clock ≤ clock ∧
      b.Leaves j (op.settled J b.machine.clock) clock (op.after b) ∧
      ((op.after b).job j).taken = (b.job j).taken := by
  have hasks {x : Action Simulation α} {r : Except Failure α} {J' : Simulation.Job} {clock : Nat}
      (hle : b.machine.clock ≤ clock)
      (hx : ∃ b', x b = (r, b') ∧ Quiet b b' ∧ b.Leaves j J' clock b') :
      ∃ clock, b.machine.clock ≤ clock ∧ b.Leaves j J' clock (x b).2 ∧
        ((x b).2.job j).taken = (b.job j).taken := by
    obtain ⟨b', heq, hquiet, hleaves⟩ := hx
    rw [heq]
    exact ⟨clock, hle, hleaves, hquiet.taken j⟩
  cases op with
  | jobName j' ctx =>
    obtain ⟨rfl, hfit⟩ := hop
    exact ⟨_, Nat.le_refl _, Job.name_leaves hs hfit, (Quiet.name j' ctx b).taken j'⟩
  | jobWait j' ctx limit =>
    obtain ⟨rfl, hfit⟩ := hop
    exact hasks (le_await _ _ _) (Job.wait_leaves hs hfit limit)
  | jobIsDone j' ctx =>
    obtain ⟨rfl, hfit⟩ := hop
    exact hasks (Nat.le_refl _) (Job.isDone_leaves hs hfit)
  | jobCancel j' ctx =>
    obtain ⟨rfl, hfit⟩ := hop
    exact hasks (le_await _ _ _) (Job.cancel_leaves hs hfit)
  | jobCancelFor j' ctx limit =>
    obtain ⟨rfl, hfit⟩ := hop
    exact hasks (le_await _ _ _) (Job.cancelFor_leaves hs hfit limit)
  | jobCancelAsync j' ctx =>
    obtain ⟨rfl, hfit⟩ := hop
    have hset : (jobCancelAsync j' ctx).settled J b.machine.clock =
      J.cancelUnlessDone b.machine.clock := rfl
    rw [hset]
    rcases J.cancelUnlessDone_cases b.machine.clock with ⟨hno, hsame⟩ | ⟨hnot, hnone, hnew⟩
    · rw [hsame]
      exact hasks (Nat.le_refl _) (Job.cancelAsync_leaves_none hs hfit hno)
    · obtain ⟨b', heq, hleaves, htaken, -⟩ := Job.cancelAsync_leaves_some hs hfit hnot hnone
      rw [after, perform, heq, hnew]
      exact ⟨_, Nat.le_refl _, hleaves, htaken⟩
  | cancellationWait c ctx limit =>
    obtain ⟨⟨k, hc⟩, hfit⟩ := hop
    exact hasks (le_await _ _ _) (Cancellation.wait_leaves hc hs hfit limit)
  | cancellationIsDone c ctx =>
    obtain ⟨⟨k, hc⟩, hfit⟩ := hop
    exact hasks (Nat.le_refl _) (Cancellation.isDone_leaves hc hs hfit)
  | outside change =>
    have hquiet : Quiet b ((outside change).after b) := Quiet.run _ b
    exact ⟨_, hop.clock, .of_grows hs (.quiet hquiet) rfl (hop.job _ _ hs.native) hs.unclosed
      hop.cancelJob, hquiet.taken j⟩
  | jobTake => cases htake
  | jobTakeFor => cases htake
  | jobTakeIfReady => cases htake
  | _ => exact hop.elim

/-- **What a take does to the job that it drives**: the native job is consumed or stays as it is. -/
theorem leaves_of_take (hs : b.Stands j J) (hop : op.Drives b j) {ctx : Option Context}
    {mode : TakeMode} (htake : op.take? = some (j, ctx, mode)) :
    ∃ J' clock, b.machine.clock ≤ clock ∧ b.Leaves j J' clock (op.after b) ∧
      (J' = J ∨ J' = { J with taken := true }) := by
  obtain ⟨-, hfit⟩ := take_of_drives hop htake
  have htaking : J.taking b.machine.clock mode = J ∨
      J.taking b.machine.clock mode = { J with taken := true } := by
    rw [Job.taking]
    split
    · exact .inr rfl
    · exact .inl rfl
  rw [(spec_of_take htake b).1]
  cases hmark : (b.job j).taken with
  | true =>
    obtain ⟨b', heq, -, hleaves⟩ := Job.take?_late hs hfit hmark mode
    rw [heq]
    exact ⟨J, _, Nat.le_refl _, hleaves, .inl rfl⟩
  | false => exact ⟨_, _, J.le_attend _ _, Job.take?_leaves hs hfit hmark mode, htaking⟩

/-- **A step of a run that drives a job** leaves a native job that follows, later or at once; only a
cancel request moves the instant of cancellation. -/
theorem leaves_of_drives (hs : b.Stands j J) (hop : op.Drives b j) :
    ∃ J' clock, b.machine.clock ≤ clock ∧ b.Leaves j J' clock (op.after b) ∧
      J.Follows b.machine.clock J' ∧ J'.cancelAt = (op.settled J b.machine.clock).cancelAt := by
  rcases htake : op.take? with _ | ⟨j', ctx, mode⟩
  · obtain ⟨clock, hle, hleaves, -⟩ := leaves_of_not_take hs hop htake
    refine ⟨_, clock, hle, hleaves, ?_, rfl⟩
    rw [settled]
    split
    · exact .cancelUnlessDone _ J
    · exact .refl _ J
  · obtain ⟨rfl, -⟩ := take_of_drives hop htake
    obtain ⟨J', clock, hle, hleaves, hJ'⟩ := leaves_of_take hs hop htake
    rw [settled, cancelled_of_take htake]
    refine ⟨J', clock, hle, hleaves, ?_⟩
    rcases hJ' with rfl | rfl
    · exact ⟨.refl _ J', rfl⟩
    · exact ⟨.consume _ J, rfl⟩

/-- A call that is passed a closed context changes nothing. -/
theorem leaves_of_barred (hs : b.Stands j J) (hop : op.Barred b j) :
    b.Leaves j J b.machine.clock (op.after b) := by
  have hrests {x : Action Simulation α} {ctx : Option Context} (hx : x.Ensures (Spares ctx))
      (hclosed : b.passed ctx = none) : b.Leaves j J b.machine.clock (x b).2 :=
    .of_rests hs (hx b hclosed).1 (hx b hclosed).2
  rcases htake : op.take? with _ | ⟨j', ctx, mode⟩
  · cases op with
    | jobName j' ctx => exact hrests (Job.name_spares j' ctx) hop.2
    | jobWait j' ctx => exact hrests (Resource.questions_barred _ _ _ _).1 hop.2
    | jobIsDone j' ctx => exact hrests (Resource.questions_barred _ _ _ _).1 hop.2
    | jobCancel j' ctx => exact hrests (Resource.questions_barred _ _ _ _).1 hop.2
    | jobCancelFor j' ctx => exact hrests (Resource.questions_barred _ _ _ _).1 hop.2
    | jobCancelAsync j' ctx => exact hrests (Job.cancelAsync_barred j' ctx).1 hop.2
    | cancellationWait c ctx => exact hrests (Resource.questions_barred _ _ _ _).1 hop
    | cancellationIsDone c ctx => exact hrests (Resource.questions_barred _ _ _ _).1 hop
    | jobTake => cases htake
    | jobTakeFor => cases htake
    | jobTakeIfReady => cases htake
    | _ => exact hop.elim
  · have hclosed : b.passed ctx = none := by
      cases op with
      | jobTake => cases htake; exact hop.2
      | jobTakeFor => cases htake; exact hop.2
      | jobTakeIfReady => cases htake; exact hop.2
      | _ => cases htake
    obtain ⟨hquiet, hmachine⟩ := Job.take?_spares j' ctx mode b hclosed
    rw [(spec_of_take htake b).1]
    exact .of_rests hs hquiet hmachine

/-- Either way the native job follows. -/
theorem leaves_of_concern (hs : b.Stands j J) (hop : op.Drives b j ∨ op.Barred b j) :
    ∃ J' clock, b.machine.clock ≤ clock ∧ b.Leaves j J' clock (op.after b) ∧
      J.Follows b.machine.clock J' := by
  rcases hop with hop | hop
  · obtain ⟨J', clock, hle, hleaves, hfollows, -⟩ := leaves_of_drives hs hop
    exact ⟨J', clock, hle, hleaves, hfollows⟩
  · exact ⟨J, _, Nat.le_refl _, leaves_of_barred hs hop, .refl _ J⟩

end Operation

namespace Run

/-- **Does a run drive a job, and nothing else?** -/
def Drives (j : Job) {b : Bridge Simulation} : {b' : Bridge Simulation} → Run b b' → Prop
  | _, done => True
  | _, @call _ _ b' _ run op _ => run.Drives j ∧ op.Drives b' j

/-- Does a run drive a job, but for calls that are passed a closed context? -/
def Concerns (j : Job) {b : Bridge Simulation} : {b' : Bridge Simulation} → Run b b' → Prop
  | _, done => True
  | _, @call _ _ b' _ run op _ => run.Concerns j ∧ (op.Drives b' j ∨ op.Barred b' j)

/-- **A run that drives a job** leaves a native job that follows the one at its start. -/
theorem driven {b b' : Bridge Simulation} {j : Job} {J : Simulation.Job} (run : Run b b')
    (hrun : run.Concerns j) (hs : b.Stands j J) :
    ∃ J', b.Leaves j J' b'.machine.clock b' ∧ b.machine.clock ≤ b'.machine.clock ∧
      J.Follows b.machine.clock J' := by
  induction run with
  | done =>
    exact ⟨J, .of_rests hs (.refl b) rfl, Nat.le_refl _, .refl _ J⟩
  | call run op known ih =>
    obtain ⟨J', hleaves, hle, hfollows⟩ := ih hrun.1
    obtain ⟨J'', clock, hlater, hstep, hfollows'⟩ :=
      Operation.leaves_of_concern hleaves.stands hrun.2
    rw [hstep.clock]
    exact ⟨J'', hleaves.trans hstep, Nat.le_trans hle hlater, hfollows.trans hle hfollows'⟩

end Run

end HandleBridge
