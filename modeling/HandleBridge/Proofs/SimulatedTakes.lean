import HandleBridge.Proofs.SimulatedJob

/-!
# Proofs/SimulatedTakes — what a take of an open job of the simulated library comes to

A take of a job that is not marked asks the native job, and `Simulation.Job.found` is what it finds:
a failure, nothing yet, or a result, which goes to the converter.  A take of a marked job is refused
and leaves the native job alone.
-/

namespace HandleBridge

open HandleBridge.Action Bridge Simulation

/-- **The result of a job was handed to its converter**, and what the converter made of it is the
answer: of a value object with the payload, or of no value. -/
def Bridge.Delivers (b : Bridge Simulation) (j : Job) (payload : Option Int)
    (x : Except Failure (Option Yield) × Bridge Simulation) : Prop :=
  ∃ value label b', b.Grows b' ∧
    x = (some <$> TakenValue.convert ⟨value, b.keeper j, (b.job j).library.origin, label⟩
      (b.job j).converter) b' ∧
    value.map x.2.machine.native.payload? = payload.map some ∧
    x.2.conversionsOf j = b.conversionsOf j ++ [value] ∧ (x.2.job j).taken = true

namespace Job

/-- The native part of a take is one call of an entry point. -/
theorem takeNatively_reported {s : State Simulation} {b : Bridge Simulation}
    {ctx : Option Context} (hlibrary : s.library = Simulation.library) (hfit : b.Fit ctx)
    (h : Handle) (valueOut readyOut : Buffer) (mode : TakeMode) :
    ∃ c, b.passed ctx = some c ∧
      (takeCall c h b.machine mode).1.Reported
        (takeNatively s ctx h valueOut readyOut mode b).1 ∧
      (takeNatively s ctx h valueOut readyOut mode b).2.machine =
        (takeCall c h b.machine mode).2 := by
  cases mode with
  | blocking =>
    obtain ⟨c, hpassed, hreported, hmachine⟩ := callNative_reported hfit
      (invokes_invokeInto valueOut .ofHandle .jobTake (some h)
        fun c => Simulation.library.entry.jobTake c (some h) true) .jobTake
    rw [takeNatively, hlibrary, map_apply]
    exact ⟨c, hpassed, hreported.map some, hmachine⟩
  | bounded limit =>
    obtain ⟨c, hpassed, hreported, hmachine⟩ := callNative_reported hfit
      (invokes_invokeInto valueOut .ofHandle .jobTakeFor (some h)
        fun c => Simulation.library.entry.jobTakeFor c (some h) (Duration.saturate limit) true)
      .jobTakeFor
    rw [takeNatively, hlibrary, map_apply]
    exact ⟨c, hpassed, hreported.map some, hmachine⟩
  | ifReady =>
    let ready (written : Option Bool × Option Handle) : Option (Option Handle) :=
      if written.1.getD false then some written.2 else none
    let call (c : Option Handle) : Action Simulation (Answer (Option Bool × Option Handle)) := do
      let answer ← invoke .jobTakeIfReady (some h)
        (Simulation.library.entry.jobTakeIfReady c (some h) true true)
      Manager.put readyOut 0 (.flag (answer.written.1.getD false))
      Manager.put valueOut 0 (.ofHandle answer.written.2)
      return answer
    have hcall : Invokes call
        fun c => Simulation.library.entry.jobTakeIfReady c (some h) true true :=
      fun _ _ => ⟨rfl, rfl⟩
    obtain ⟨c, hpassed, hreported, hmachine⟩ := callNative_reported hfit hcall .jobTakeIfReady
    have htake : takeNatively s ctx h valueOut readyOut .ifReady b =
        (ready <$> callNative ctx .jobTakeIfReady call) b := by
      rw [takeNatively, hlibrary]
      rfl
    rw [htake, map_apply]
    exact ⟨c, hpassed, hreported.map ready, hmachine⟩

/-- A take leaves what was made as it was, but for the mark. -/
theorem takeOnce_grows (b : Bridge Simulation) (j : Job) (ctx : Option Context) (mode : TakeMode) :
    b.Grows (j.takeOnce ctx mode b).2 ∧ (j.takeOnce ctx mode b).2.contexts = b.contexts := by
  rcases j.takeOnce_cases b ctx mode with ⟨value, b₀, -, hquiet, heq⟩ | ⟨-, hquiet, -⟩
  · rw [heq]
    exact ⟨(Grows.quiet hquiet).trans (.markTaken b₀ j), hquiet.contexts⟩
  · exact ⟨.quiet hquiet, hquiet.contexts⟩

/-- The converter of a job is invoked, which is noted. -/
theorem convert_apply (j : Job) (value : TakenValue) (b : Bridge Simulation) :
    j.convert value b =
      value.convert (b.job j).converter (b.note (.converted j value.handle)) := by
  rw [convert, bind_of_ok (note_apply _ _), bind_of_ok (read_apply _ _)]
  rfl

variable {b : Bridge Simulation} {j : Job} {J : Simulation.Job} {ctx : Option Context}
  (hs : b.Stands j J) (hfit : b.Fit ctx)

include hs hfit

/-- **A take of a job that is not marked** comes to what it finds, and marks the job if that is a
result. -/
theorem takeOnce_leaves (hfree : (b.job j).taken = false) (mode : TakeMode) :
    ∃ b', Quiet b b' ∧
      b.Leaves j (J.taking b.machine.clock mode) (J.attend b.machine.clock mode).2 b' ∧
      match J.found b.machine.clock mode with
      | .error status => ∃ d, j.takeOnce ctx mode b = (.error (.ofStatus status d), b')
      | .ok none => j.takeOnce ctx mode b = (.ok .notReady, b')
      | .ok (some payload) => ∃ value, value.map b'.machine.native.payload? = payload.map some ∧
          j.takeOnce ctx mode b = (.ok (.taken value), b'.modifyJob j (·.markTaken)) := by
  obtain ⟨valueOut, readyOut, b₀, hquiet, hmachine, -, -, -, htake⟩ :=
    takeOnce_of_open hs.live.2 ctx mode
  rw [if_neg (Bool.eq_false_iff.1 hs.live.1), if_neg (Bool.eq_false_iff.1 hfree)] at htake
  obtain ⟨c, -, hreported, hafter⟩ :=
    takeNatively_reported hs.library (hquiet.fit hfit) (b.handleOf j) valueOut readyOut mode
  have hserves := takeCall_serves hs.native c hs.unclosed mode
  rw [hmachine] at hreported hafter
  generalize takeCall c (b.handleOf j) b.machine mode = x at hserves hreported hafter
  have hnative : Quiet b₀ (takeNatively (b.job j) ctx (b.handleOf j) valueOut readyOut mode b₀).2 :=
    Quiet.takeNatively _ _ _ _ _ _ b₀
  rcases hresult : takeNatively (b.job j) ctx (b.handleOf j) valueOut readyOut mode b₀
    with ⟨result, b'⟩
  rw [hresult] at hreported hafter hnative
  have hclosed := (J.follows_taking b.machine.clock mode).closed.trans hs.unclosed
  have hleaves :
      b.Leaves j (J.taking b.machine.clock mode) (J.attend b.machine.clock mode).2 b' := by
    refine .of_grows hs (.quiet (hquiet.trans hnative)) ?_ ?_ hclosed ?_ <;> rw [hafter]
    · exact hserves.clock
    · exact hserves.job
    · intro t k hk
      rw [Simulation.cancelJob?, hserves.cancelJobs]
      exact hk
  refine ⟨b', hquiet.trans hnative, hleaves, ?_⟩
  obtain ⟨answer, machine⟩ := x
  have hfinds := hserves.answer
  rw [← hafter] at hfinds
  rw [htake]
  generalize J.found b.machine.clock mode = found at hfinds
  cases hfinds with
  | refused written failed =>
    cases hreported with
    | written ok => exact absurd (ok.symm.trans failed) (by decide)
    | failed d => exact ⟨d, bind_of_error hresult⟩
  | notYet =>
    obtain rfl : result = .ok none := hreported.of_ok
    exact bind_of_ok hresult
  | result holds =>
    obtain rfl : result = .ok (some _) := hreported.of_ok
    exact ⟨_, holds, bind_of_ok hresult⟩

/-- A take that finds a failure fails with it. -/
theorem take?_refused (hfree : (b.job j).taken = false) {mode : TakeMode} {status : Status}
    (hfound : J.found b.machine.clock mode = .error status) :
    ∃ d b', j.take? ctx mode b = (.error (.ofStatus status d), b') ∧ Quiet b b' ∧
      b.Leaves j (J.taking b.machine.clock mode) (J.attend b.machine.clock mode).2 b' := by
  obtain ⟨b', hquiet, hleaves, htake⟩ := takeOnce_leaves hs hfit hfree mode
  rw [hfound] at htake
  obtain ⟨d, htake⟩ := htake
  refine ⟨d, b', ?_, hquiet, hleaves⟩
  rw [take?, bind_of_ok (read_apply _ _), bind_of_ok (read_apply _ _), bind_of_error htake]

/-- A take that finds nothing yet says so. -/
theorem take?_notYet (hfree : (b.job j).taken = false) {mode : TakeMode}
    (hfound : J.found b.machine.clock mode = .ok none) :
    ∃ b', j.take? ctx mode b = (.ok none, b') ∧ Quiet b b' ∧
      b.Leaves j (J.taking b.machine.clock mode) (J.attend b.machine.clock mode).2 b' := by
  obtain ⟨b', hquiet, hleaves, htake⟩ := takeOnce_leaves hs hfit hfree mode
  rw [hfound] at htake
  have hremark := Quiet.remarked b' (.resultNotReady (b.resource (b.job j).resource).id)
  refine ⟨_, ?_, hquiet.trans hremark, hleaves.then_rests (.quiet hremark) rfl⟩
  rw [take?, bind_of_ok (read_apply _ _), bind_of_ok (read_apply _ _), bind_of_ok htake]
  rfl

/-- **A take that finds a result hands it to the converter**: it marks the job, looks its label up
and invokes the converter. -/
theorem take?_result (hfree : (b.job j).taken = false) {mode : TakeMode} {payload : Option Int}
    (hfound : J.found b.machine.clock mode = .ok (some payload)) :
    b.Delivers j payload (j.take? ctx mode b) ∧
      b.Leaves j (J.taking b.machine.clock mode) (J.attend b.machine.clock mode).2
        (j.take? ctx mode b).2 := by
  obtain ⟨b₀, hquiet, hleaves, htake⟩ := takeOnce_leaves hs hfit hfree mode
  rw [hfound] at htake
  obtain ⟨value, hvalue, htake⟩ := htake
  -- The mark.
  let b₁ := (b₀.modifyJob j (·.markTaken)).note
    (.remarked (.resultTaken (b.resource (b.job j).resource).id mode value.isSome))
  have hleaves₁ : b.Leaves j (J.taking b.machine.clock mode) (J.attend b.machine.clock mode).2 b₁ :=
    hleaves.then_rests ((Grows.markTaken b₀ j).trans (.note _ _)) rfl
  have hfit₁ : b₁.Fit ctx := hquiet.fit hfit
  have hmarked₁ : (b₁.job j).taken = true := by
    change ((b₀.modifyJob j (·.markTaken)).job j).taken = true
    rw [job_modifyJob, if_pos ⟨rfl, (hquiet.has _).2 hs.has⟩]
    rfl
  have hconversions₁ : b₁.conversionsOf j = b.conversionsOf j :=
    ((Quiet.remarked (b₀.modifyJob j (·.markTaken)) _).conversionsOf j).trans
      (hquiet.conversionsOf j)
  -- The label.
  let b₂ := (j.label ctx b₁).2
  have hquiet₂ : Quiet b₁ b₂ := Quiet.label j ctx b₁
  have hlike₂ : b₁.machine.Like b₂.machine := label_like hleaves₁.stands hfit₁
  have hleaves₂ := hleaves₁.trans (label_leaves hleaves₁.stands hfit₁)
  rw [hleaves₁.clock] at hleaves₂
  obtain ⟨label, -, hlabel⟩ := (j.label_total ctx).bind_eq
    (fun label => some <$> j.convert ⟨value, b.keeper j, (b.job j).library.origin, label⟩) b₁
  -- The converter.
  let b₃ := b₂.note (.converted j value)
  have hleaves₃ := hleaves₂.then_rests (.note b₂ (.converted j value)) rfl
  have hmade : j.take? ctx mode b = (some <$> TakenValue.convert
      ⟨value, b.keeper j, (b.job j).library.origin, label⟩ (b.job j).converter) b₃ := by
    rw [take?, bind_of_ok (read_apply _ _), bind_of_ok (read_apply _ _), bind_of_ok htake]
    refine (bind_of_ok (remark_apply _ _)).trans (hlabel.trans ?_)
    rw [map_apply, map_apply, convert_apply, hleaves₂.grows.jobConverter hs.has]
  have hadds := TakenValue.convert_of_open ⟨value, b.keeper j, (b.job j).library.origin, label⟩
    (b := b₃) ((hleaves₃.grows.closed _ (has_of_manager_open hs.live.2)).trans hs.live.2)
    (b.job j).converter
  rw [hmade, map_apply]
  refine ⟨⟨value, label, b₃, hleaves₃.grows, by rw [map_apply], ?_, ?_, ?_⟩,
    hleaves₃.then_rests hadds.toGrows hadds.machine⟩
  · have hpayload : b₃.machine.native.payload? = b₀.machine.native.payload? := hlike₂.payload?
    rw [hadds.machine, hpayload]
    exact hvalue
  · have hnoted := b₂.conversionsOf_converted j value
    rw [hquiet₂.conversionsOf, hconversions₁] at hnoted
    rw [conversionsOf, hadds.conversions]
    exact hnoted
  · rw [job, hadds.jobs]
    exact (hquiet₂.taken j).trans hmarked₁

/-- A take of a job that is not marked waits as its mode says, and consumes the job if that brought
it to the completion. -/
theorem take?_leaves (hfree : (b.job j).taken = false) (mode : TakeMode) :
    b.Leaves j (J.taking b.machine.clock mode) (J.attend b.machine.clock mode).2
      (j.take? ctx mode b).2 := by
  rcases hfound : J.found b.machine.clock mode with status | _ | payload
  · obtain ⟨d, b', heq, -, hleaves⟩ := take?_refused hs hfit hfree hfound
    rwa [heq]
  · obtain ⟨b', heq, -, hleaves⟩ := take?_notYet hs hfit hfree hfound
    rwa [heq]
  · exact (take?_result hs hfit hfree hfound).2

/-- **A take of a marked job** is refused and leaves the native job alone. -/
theorem take?_late (hmark : (b.job j).taken = true) (mode : TakeMode) :
    ∃ b', j.take? ctx mode b = (.error (.alreadyTaken (b.label j ctx)), b') ∧ Quiet b b' ∧
      b.Leaves j J b.machine.clock b' := by
  have hrefused := (take?_of_taken hs.live hmark ctx mode).1
  obtain ⟨_, _, b₀, hquiet, hmachine, -, -, -, htake⟩ := takeOnce_of_open hs.live.2 ctx mode
  rw [if_neg (Bool.eq_false_iff.1 hs.live.1), if_pos hmark] at htake
  have hleaves : b.Leaves j J b.machine.clock b₀ := .of_rests hs hquiet hmachine
  have hlabel := label_leaves hleaves.stands (hquiet.fit hfit)
  rw [hleaves.clock] at hlabel
  obtain ⟨label, -, heq⟩ := (j.label_total ctx).bind_eq
    (fun label => (.fail (.alreadyTaken label) : Action Simulation (Option Yield))) b₀
  have hmade : (j.take? ctx mode b).2 = (j.label ctx b₀).2 := by
    rw [take?, bind_of_ok (read_apply _ _), bind_of_ok (read_apply _ _), bind_of_ok htake]
    exact congrArg Prod.snd heq
  refine ⟨_, Prod.ext hrefused hmade, hquiet.trans (Quiet.label j ctx b₀), hleaves.trans hlabel⟩

end Job

end HandleBridge
