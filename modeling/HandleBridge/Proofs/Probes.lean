import HandleBridge.Proofs.Driving

/-!
# Proofs/Probes — completion is stable, and every way of asking for it agrees

The simulated library compares the clock with the completion of a job in four places: when it is
asked whether the job is done, when it is told to wait, and in two takes.  For no span at all these
are one question (`Bridge.Agrees`), and once the answer is yes it stays so, whatever cancel requests
follow (`Run.completion_stable`).
-/

namespace HandleBridge

open HandleBridge.Action Bridge Simulation

variable {α : Type}

/-! ## What a take can tell -/

namespace Job

/-- Did a take run into its limit?  A failure of the converter comes when the job is marked, and is
none of the take's. -/
def TimesOut (j : Job) (x : Except Failure α × Bridge Simulation) : Prop :=
  ∃ e, x.1 = .error e ∧ e.isTimeout = true ∧ (x.2.job j).taken = false

/-- A result that is not there is no timeout. -/
theorem timesOut_takeExpecting {j : Job} (symbol : Symbol) (take : Action Simulation (Option Yield))
    (b : Bridge Simulation) : j.TimesOut (takeExpecting symbol take b) ↔ j.TimesOut (take b) := by
  rw [takeExpecting]
  rcases h : take b with ⟨e | _ | y, b'⟩
  · rw [bind_of_error h]
    constructor
    · rintro ⟨e, he, hrest⟩
      cases he
      exact ⟨_, rfl, hrest⟩
    · rintro ⟨e, he, hrest⟩
      cases he
      exact ⟨_, rfl, hrest⟩
  · rw [bind_of_ok h]
    constructor
    · rintro ⟨e, he, htimeout, -⟩
      cases he
      exact Bool.noConfusion htimeout
    · rintro ⟨e, he, -⟩
      cases he
  · rw [bind_of_ok h]
    constructor
    · rintro ⟨e, he, -⟩
      cases he
    · rintro ⟨e, he, -⟩
      cases he

end Job

namespace Simulation.Job

variable {J : Simulation.Job} {now : Nat} {mode : TakeMode}

/-- Only a take that does not wait finds nothing yet. -/
theorem found_eq_notYet : J.found now mode = .ok none ↔ mode = .ifReady ∧ J.isDone now = false := by
  rw [found]
  cases mode with
  | ifReady =>
    rw [attend]
    cases J.isDone now with
    | false => simp [notYet]
    | true => rcases J.verdict with _ | _ <;> simp [Except.map]
  | blocking =>
    split
    · rcases J.verdict with _ | _ <;> simp [Except.map]
    · simp [notYet]
  | bounded limit =>
    split
    · rcases J.verdict with _ | _ <;> simp [Except.map]
    · simp [notYet]

/-- Only a take with a limit finds that it took too long. -/
theorem found_eq_timeout : J.found now mode = .error .timeout ↔
    ∃ limit, mode = .bounded limit ∧ (J.attend now mode).1 = false := by
  have hverdict (found : Except Status (Option (Option Int))) (heq : J.verdict.map some = found) :
      found ≠ .error .timeout := by
    rintro rfl
    rcases hverdict : J.verdict with status | payload
    · rw [hverdict] at heq
      exact J.verdict_ne_timeout (hverdict.trans (congrArg Except.error (Except.error.inj heq)))
    · rw [hverdict] at heq
      cases heq
  rw [found]
  cases hcame : (J.attend now mode).1 with
  | true => simp [hverdict _ rfl]
  | false =>
    cases mode with
    | bounded limit => simp [notYet]
    | blocking => simpa [notYet] using by decide
    | ifReady => simp [notYet]

end Simulation.Job

namespace Job

section Takes

variable {b : Bridge Simulation} {j : Job} {J : Simulation.Job} {ctx : Option Context}
  (hs : b.Stands j J) (hfit : b.Fit ctx) (mode : TakeMode)

include hs hfit

/-- **A take moves the clock to the end of its wait**; of a marked job it does not wait. -/
theorem clock_take? : (j.take? ctx mode b).2.machine.clock =
    if (b.job j).taken then b.machine.clock else (J.attend b.machine.clock mode).2 := by
  cases hmark : (b.job j).taken with
  | true =>
    obtain ⟨b', heq, -, hleaves⟩ := take?_late hs hfit hmark mode
    rw [heq, hleaves.clock, if_pos rfl]
  | false => exact (take?_leaves hs hfit hmark mode).clock

theorem take?_eq_none : (j.take? ctx mode b).1 = .ok none ↔
    (b.job j).taken = false ∧ mode = .ifReady ∧ J.isDone b.machine.clock = false := by
  rw [← Simulation.Job.found_eq_notYet]
  cases hmark : (b.job j).taken with
  | true =>
    obtain ⟨b', heq, -⟩ := take?_late hs hfit hmark mode
    simp [heq]
  | false =>
    rcases hfound : J.found b.machine.clock mode with status | _ | payload
    · obtain ⟨d, b', heq, -⟩ := take?_refused hs hfit hmark hfound
      simp [heq]
    · obtain ⟨b', heq, -⟩ := take?_notYet hs hfit hmark hfound
      simp [heq]
    · obtain ⟨value, label, b', -, heq, -⟩ := (take?_result hs hfit hmark hfound).1
      rw [heq, map_apply]
      rcases (TakenValue.convert _ _ b').1 with e | y <;> simp [Except.map]

theorem timesOut_take? : j.TimesOut (j.take? ctx mode b) ↔ (b.job j).taken = false ∧
    ∃ limit, mode = .bounded limit ∧ (J.attend b.machine.clock mode).1 = false := by
  rw [← Simulation.Job.found_eq_timeout, TimesOut]
  cases hmark : (b.job j).taken with
  | true =>
    obtain ⟨b', heq, -⟩ := take?_late hs hfit hmark mode
    simp [heq, Failure.isTimeout]
  | false =>
    rcases hfound : J.found b.machine.clock mode with status | _ | payload
    · obtain ⟨d, b', heq, hquiet, -⟩ := take?_refused hs hfit hmark hfound
      simp [heq, hquiet.taken j, hmark, Failure.ofStatus, Failure.isTimeout]
    · obtain ⟨b', heq, -⟩ := take?_notYet hs hfit hmark hfound
      simp [heq]
    · obtain ⟨value, label, b', -, -, -, -, hmarked⟩ := (take?_result hs hfit hmark hfound).1
      simp [hmarked]

end Takes

end Job

/-! ## Asking for no time at all -/

namespace Bridge

/-- **The four ways to ask whether a job is done agree**, and none of them moves the clock. -/
structure Agrees (b : Bridge Simulation) (j : Job) (ctx : Option Context) (done : Bool) : Prop where
  isDone : (j.isDone ctx b).1 = .ok done
  wait : (j.wait ctx 0 b).1 = .ok done
  takeIfReady : (j.takeIfReady ctx b).1 = .ok none ↔ done = false
  takeFor : j.TimesOut (j.takeFor ctx 0 b) ↔ done = false
  clock_isDone : (j.isDone ctx b).2.machine.clock = b.machine.clock
  clock_wait : (j.wait ctx 0 b).2.machine.clock = b.machine.clock
  clock_takeIfReady : (j.takeIfReady ctx b).2.machine.clock = b.machine.clock
  clock_takeFor : (j.takeFor ctx 0 b).2.machine.clock = b.machine.clock

variable {b : Bridge Simulation} {j : Job} {J : Simulation.Job} {ctx : Option Context}

theorem Stands.agrees (hs : b.Stands j J) (hfit : b.Fit ctx) (hfree : (b.job j).taken = false) :
    b.Agrees j ctx (J.isDone b.machine.clock) := by
  have hzero := J.attend_bounded_zero b.machine.clock
  obtain ⟨b₁, hdone, -, hleaves₁⟩ := Job.isDone_leaves hs hfit
  obtain ⟨b₂, hwait, -, hleaves₂⟩ := Job.wait_leaves hs hfit 0
  rw [Duration.saturate, Nat.zero_min, await_zero] at hwait hleaves₂
  refine ⟨by rw [hdone], by rw [hwait]; rfl, ?_, ?_, by rw [hdone, hleaves₁.clock],
    by rw [hwait, hleaves₂.clock], ?_, ?_⟩
  · rw [Job.takeIfReady, Job.take?_eq_none hs hfit]
    simp [hfree]
  · rw [Job.takeFor, Job.timesOut_takeExpecting, Job.timesOut_take? hs hfit, hzero]
    simp [hfree]
  · rw [Job.takeIfReady, Job.clock_take? hs hfit, hfree]
    rfl
  · rw [Job.takeFor, Job.takeExpecting_snd, Job.clock_take? hs hfit, hfree, hzero]
    rfl

/-- Takes of a job that is done come back at once, and not because of a limit. -/
theorem Stands.prompt (hs : b.Stands j J) (hfit : b.Fit ctx)
    (hdone : J.isDone b.machine.clock = true) (mode : TakeMode) :
    (j.take? ctx mode b).2.machine.clock = b.machine.clock ∧ ¬ j.TimesOut (j.take? ctx mode b) := by
  rw [Job.clock_take? hs hfit, Job.timesOut_take? hs hfit, J.attend_of_done hdone]
  simp

end Bridge

/-! ## Along a run -/

/-- Does a wait for a job, or a cancel request that waits, say that the job is done? -/
def Operation.Announces (b : Bridge Simulation) (j : Job) :
    {α : Type} → Operation Simulation α → Prop
  | _, jobWait j' ctx limit => j' = j ∧ (j'.wait ctx limit b).1 = .ok true
  | _, jobCancel j' ctx => j' = j ∧ (j'.cancel ctx b).1 = .ok true
  | _, jobCancelFor j' ctx limit => j' = j ∧ (j'.cancelFor ctx limit b).1 = .ok true
  | _, _ => False

theorem Operation.isDone_of_announces {b : Bridge Simulation} {j : Job} {J : Simulation.Job}
    {op : Operation Simulation α} (hs : b.Stands j J) (hop : op.Drives b j ∨ op.Barred b j)
    (htells : op.Announces b j) :
    ∃ J', b.Leaves j J' (op.after b).machine.clock (op.after b) ∧
      J'.isDone (op.after b).machine.clock = true := by
  -- Each of the three waits for the completion of the job that it leaves, or is passed a closed
  -- context and fails.
  have hwaits {x : Action Simulation Bool} {J' : Simulation.Job} {limit : Option Nat}
      (hx : ∃ b', x b = (.ok (await J'.due limit b.machine.clock).1, b') ∧ Quiet b b' ∧
        b.Leaves j J' (await J'.due limit b.machine.clock).2 b') (htells : (x b).1 = .ok true) :
      ∃ J', b.Leaves j J' (x b).2.machine.clock (x b).2 ∧
        J'.isDone (x b).2.machine.clock = true := by
    obtain ⟨b', heq, -, hleaves⟩ := hx
    rw [heq] at htells ⊢
    rw [hleaves.clock]
    exact ⟨J', hleaves, (await_came _ _ _).symm.trans (Except.ok.inj htells)⟩
  have hfails {x : Action Simulation Bool} {ctx : Option Context} (hx : x.Barred ctx)
      (hclosed : b.passed ctx = none) (htells : (x b).1 = .ok true) : False := by
    obtain ⟨e, he⟩ := hx.2 b hclosed
    cases he.symm.trans htells
  cases op with
  | jobWait j' ctx limit =>
    rcases hop with ⟨rfl, hfit⟩ | ⟨-, hclosed⟩
    · exact hwaits (Job.wait_leaves hs hfit limit) htells.2
    · exact (hfails (Resource.questions_barred _ _ _ _) hclosed htells.2).elim
  | jobCancel j' ctx =>
    rcases hop with ⟨rfl, hfit⟩ | ⟨-, hclosed⟩
    · exact hwaits (Job.cancel_leaves hs hfit) htells.2
    · exact (hfails (Resource.questions_barred _ _ _ _) hclosed htells.2).elim
  | jobCancelFor j' ctx limit =>
    rcases hop with ⟨rfl, hfit⟩ | ⟨-, hclosed⟩
    · exact hwaits (Job.cancelFor_leaves hs hfit limit) htells.2
    · exact (hfails (Resource.questions_barred _ _ _ _) hclosed htells.2).elim
  | _ => exact htells.elim

namespace Run

/-- Did a wait for a job, or a cancel request that waits, say in the course of a run that the job is
done? -/
def Announced (j : Job) {b : Bridge Simulation} : {b' : Bridge Simulation} → Run b b' → Prop
  | _, done => False
  | _, @call _ _ b' _ run op _ => run.Announced j ∨ op.Announces b' j

variable {b b' : Bridge Simulation} {j : Job} {J : Simulation.Job}

/-- What was said to be done is done ever after. -/
theorem isDone_of_announced (run : Run b b') (hrun : run.Concerns j) (hs : b.Stands j J)
    (hsaid : run.Announced j) {J' : Simulation.Job} (hs' : b'.Stands j J') :
    J'.isDone b'.machine.clock = true := by
  induction run generalizing J' with
  | done => exact hsaid.elim
  | call run op known ih =>
    obtain ⟨J₁, hleaves, -, -⟩ := run.driven hrun.1 hs
    rcases hsaid with hsaid | htells
    · obtain ⟨J₂, clock, hle, hstep, hfollows⟩ :=
        Operation.leaves_of_concern hleaves.stands hrun.2
      obtain rfl := hs'.unique hstep.stands
      rw [hstep.clock]
      exact hfollows.isDone hle (ih hrun.1 hsaid hleaves.stands)
    · obtain ⟨J₂, hstep, hdone⟩ := Operation.isDone_of_announces hleaves.stands hrun.2 htells
      obtain rfl := hs'.unique hstep.stands
      exact hdone

/-- **Completion is stable, and all probes agree.**  A job that is done stays done, at the same
instant and in the same way; no request makes it done at an instant that had passed.  As long as the
result was not taken, asking, waiting for no time and the two takes that do not wait agree on
whether the job is done, and leave the clock.  After a wait or a cancel request said that the job is
done, no take waits or times out. -/
theorem completion_stable (run : Run b b') (hrun : run.Concerns j) (hs : b.Stands j J) :
    ∃ J', b'.Stands j J' ∧
      (J.isDone b.machine.clock = true →
        J'.isDone b'.machine.clock = true ∧ J'.completion = J.completion) ∧
      (∀ instant, instant < b.machine.clock → J'.isDone instant = J.isDone instant) ∧
      ((b'.job j).taken = false → ∀ ctx, b'.Fit ctx →
        b'.Agrees j ctx (J'.isDone b'.machine.clock)) ∧
      (run.Announced j → ∀ ctx, b'.Fit ctx →
        ((j.take ctx b').2.machine.clock = b'.machine.clock ∧ ¬ j.TimesOut (j.take ctx b')) ∧
        ∀ limit, (j.takeFor ctx limit b').2.machine.clock = b'.machine.clock ∧
          ¬ j.TimesOut (j.takeFor ctx limit b')) := by
  obtain ⟨J', hleaves, hle, hfollows⟩ := run.driven hrun hs
  refine ⟨J', hleaves.stands, fun hdone => ?_, fun instant hlt => hfollows.isDone_of_lt hlt,
    fun hfree ctx hfit => hleaves.stands.agrees hfit hfree, fun hsaid ctx hfit => ?_⟩
  · exact ⟨hfollows.isDone hle hdone, hfollows.completion_of_done hdone⟩
  · have hdone := run.isDone_of_announced hrun hs hsaid hleaves.stands
    refine ⟨?_, fun limit => ?_⟩
    · rw [Job.take, Job.takeExpecting_snd, Job.timesOut_takeExpecting]
      exact hleaves.stands.prompt hfit hdone .blocking
    · rw [Job.takeFor, Job.takeExpecting_snd, Job.timesOut_takeExpecting]
      exact hleaves.stands.prompt hfit hdone (.bounded limit)

/-- A job that would never complete, after a cancel request that waits. -/
theorem completion_stable_of_cancel :
    ∃ (b' : Bridge Simulation) (run : Run (.ofJob ⟨"", none, .void, 5, none, none, none⟩ .void) b'),
      run.Concerns ⟨0⟩ ∧ run.Announced ⟨0⟩ ∧ b'.Agrees ⟨0⟩ none true ∧
        ((⟨0⟩ : HandleBridge.Job).take none b').2.machine.clock = b'.machine.clock := by
  let run := (Run.done (b := .ofJob ⟨"", none, .void, 5, none, none, none⟩ .void)).call
    (.jobCancel ⟨0⟩ none) (by decide)
  have hrun : run.Concerns ⟨0⟩ := ⟨trivial, .inl ⟨rfl, fit_none _⟩⟩
  have hsaid : run.Announced ⟨0⟩ := .inr ⟨rfl, rfl⟩
  obtain ⟨hs, -⟩ := Bridge.ofJob_stands ⟨"", none, .void, 5, none, none, none⟩ .void
  obtain ⟨J', hs', -, -, hagrees, hprompt⟩ := run.completion_stable hrun hs
  have hdone := run.isDone_of_announced hrun hs hsaid hs'
  refine ⟨_, run, hrun, hsaid, ?_, (hprompt hsaid none (fit_none _)).1.1⟩
  rw [← hdone]
  exact hagrees (by decide) none (fit_none _)

end Run

end HandleBridge
