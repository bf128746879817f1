import HandleBridge.Proofs.Probes

/-!
# Proofs/ResultProtocol — what the takes of one job answer, one after the other

The takes of a run miss the completion of the job until one reaches it.  That one is decisive: it
delivers the result, or says why there is none.  A result that was delivered marks the job, and
every later take is refused by the bridge; a result that was denied is consumed in the native
library alone, and every later take is refused there.  `Stage` says how far the takes came, and what
it means for the job.
-/

namespace HandleBridge

open HandleBridge.Action Bridge Simulation

variable {α : Type}

/-! ## Takes -/

/-- A take of a run: the bridge before it, and what it was passed. -/
structure Taking where
  before : Bridge Simulation
  ctx : Option Context
  mode : TakeMode

namespace Taking

/-- What a take answers. -/
def answer (t : Taking) (j : Job) : Except Failure (Option Yield) :=
  match t.mode with
  | .blocking => (j.take t.ctx t.before).1.map some
  | .bounded limit => (j.takeFor t.ctx limit t.before).1.map some
  | .ifReady => (j.takeIfReady t.ctx t.before).1

/-- The bridge after a take. -/
def after (t : Taking) (j : Job) : Bridge Simulation := (j.take? t.ctx t.mode t.before).2

/-- **Did a take reach the completion of the job?**  The job, as it was before the take, is done by
the end of it or is not. -/
structure Reaches (t : Taking) (j : Job) (spec : JobSpec) (J : Simulation.Job) (reached : Bool) :
    Prop where
  stands : t.before.Stands j J
  spec : J.spec = spec
  isDone : J.isDone (t.after j).machine.clock = reached

/-- **A take that misses the completion** answers nothing decisive. -/
inductive Misses (t : Taking) (j : Job) (spec : JobSpec) : Prop where
  | timeout {J : Simulation.Job} {limit : Nat} {d : Option Diagnostic}
    (reaches : t.Reaches j spec J false) (mode : t.mode = .bounded limit)
    (answer : t.answer j = .error (.ofStatus .timeout d))
  | notReady {J : Simulation.Job} (reaches : t.Reaches j spec J false) (mode : t.mode = .ifReady)
    (answer : t.answer j = .ok none)
  | endless {J : Simulation.Job} {d : Option Diagnostic} (reaches : t.Reaches j spec J false)
    (mode : t.mode = .blocking) (never : J.readyAt = none) (uncancelled : J.cancelAt = none)
    (answer : t.answer j = .error (.ofStatus .ioError d))

/-- **A take that delivers the result** to the converter, whose result it answers. -/
inductive Delivers (t : Taking) (j : Job) (spec : JobSpec) : Prop where
  | value {J : Simulation.Job} {payload : Int} (reaches : t.Reaches j spec J true)
    (finished : ¬ J.Cancelled) (outcome : spec.outcome = .value payload)
    (delivers : t.before.Delivers j (some payload) (t.answer j, t.after j))
  | void {J : Simulation.Job} (reaches : t.Reaches j spec J true) (finished : ¬ J.Cancelled)
    (outcome : spec.outcome = .void)
    (delivers : t.before.Delivers j none (t.answer j, t.after j))

/-- **A take that says why there is no result.** -/
inductive Denies (t : Taking) (j : Job) (spec : JobSpec) : Prop where
  | cancelled {J : Simulation.Job} {d : Option Diagnostic} (reaches : t.Reaches j spec J true)
    (cancelled : J.Cancelled) (answer : t.answer j = .error (.ofStatus .clientError d))
  | serverError {J : Simulation.Job} {d : Option Diagnostic} {message : String}
    {detail : ServerDetail} (reaches : t.Reaches j spec J true) (finished : ¬ J.Cancelled)
    (outcome : spec.outcome = .serverError message detail)
    (answer : t.answer j = .error (.ofStatus .serverError d))

/-- A take of a result that was delivered before. -/
def ComesLate (t : Taking) (j : Job) : Prop :=
  t.answer j = .error (.alreadyTaken (t.before.label j t.ctx))

/-- A take of a result that was denied before. -/
def IsDeniedAgain (t : Taking) (j : Job) : Prop :=
  ∃ d, t.answer j = .error (.ofStatus .clientError d)

end Taking

/-- **How far the takes of a job came**, and what the job is after them. -/
inductive Stage (b : Bridge Simulation) (j : Job) (J : Simulation.Job) : List Taking → Prop where
  | pending {early : List Taking} (misses : ∀ t ∈ early, t.Misses j J.spec)
    (unmarked : (b.job j).taken = false) (unconsumed : J.taken = false) : Stage b j J early
  | delivered {early : List Taking} {t : Taking} {late : List Taking}
    (misses : ∀ t ∈ early, t.Misses j J.spec) (delivers : t.Delivers j J.spec)
    (comeLate : ∀ t ∈ late, t.ComesLate j) (marked : (b.job j).taken = true) :
    Stage b j J (early ++ t :: late)
  | denied {early : List Taking} {t : Taking} {late : List Taking}
    (misses : ∀ t ∈ early, t.Misses j J.spec) (denies : t.Denies j J.spec)
    (deniedAgain : ∀ t ∈ late, t.IsDeniedAgain j) (unmarked : (b.job j).taken = false)
    (consumed : J.taken = true) (done : J.isDone b.machine.clock = true) :
    Stage b j J (early ++ t :: late)

/-! ## One take -/

namespace Taking

variable {b : Bridge Simulation} {j : Job} {J : Simulation.Job} {ctx : Option Context}
  (hs : b.Stands j J) (hfit : b.Fit ctx) (mode : TakeMode)

include hs hfit

/-- Only a take that does not wait finds nothing, so the others need not make anything of it. -/
theorem answer_eq : answer ⟨b, ctx, mode⟩ j = (j.take? ctx mode b).1 := by
  have hexpect (symbol : Symbol) (hmode : mode ≠ .ifReady) :
      (Job.takeExpecting symbol (j.take? ctx mode) b).1.map some = (j.take? ctx mode b).1 := by
    rw [Job.takeExpecting]
    rcases heq : j.take? ctx mode b with ⟨e | _ | y, b'⟩
    · rw [bind_of_error heq]
      rfl
    · have hnone : (j.take? ctx mode b).1 = .ok none := congrArg Prod.fst heq
      exact absurd ((Job.take?_eq_none hs hfit mode).1 hnone).2.1 hmode
    · rw [bind_of_ok heq]
      rfl
  cases mode with
  | blocking => exact hexpect .jobTake (by simp)
  | bounded limit => exact hexpect .jobTakeFor (by simp)
  | ifReady => rfl

theorem reaches (hfree : (b.job j).taken = false) :
    Reaches ⟨b, ctx, mode⟩ j J.spec J (J.attend b.machine.clock mode).1 := by
  refine ⟨hs, rfl, ?_⟩
  rw [after, Job.clock_take? hs hfit, hfree, if_neg Bool.false_ne_true]
  exact (J.attend_came b.machine.clock mode).symm

/-- A take that does not come to the completion leaves the job as it was. -/
theorem misses (hfree : (b.job j).taken = false)
    (hmiss : (J.attend b.machine.clock mode).1 = false) :
    Misses ⟨b, ctx, mode⟩ j J.spec ∧ ((j.take? ctx mode b).2.job j).taken = false := by
  have hreaches := reaches hs hfit mode hfree
  have hfound : J.found b.machine.clock mode = Simulation.Job.notYet mode := by
    rw [Simulation.Job.found, hmiss, if_neg Bool.false_ne_true]
  rw [hmiss] at hreaches
  have hanswer := answer_eq hs hfit mode
  cases mode with
  | blocking =>
    obtain ⟨d, b', heq, hquiet, -⟩ := Job.take?_refused hs hfit hfree hfound
    obtain ⟨hnever, huncancelled⟩ := Simulation.Job.never_of_missed hmiss
    rw [heq] at hanswer ⊢
    exact ⟨.endless hreaches rfl hnever huncancelled hanswer, (hquiet.taken j).trans hfree⟩
  | bounded limit =>
    obtain ⟨d, b', heq, hquiet, -⟩ := Job.take?_refused hs hfit hfree hfound
    rw [heq] at hanswer ⊢
    exact ⟨.timeout hreaches rfl hanswer, (hquiet.taken j).trans hfree⟩
  | ifReady =>
    obtain ⟨b', heq, hquiet, -⟩ := Job.take?_notYet hs hfit hfree hfound
    rw [heq] at hanswer ⊢
    exact ⟨.notReady hreaches rfl hanswer, (hquiet.taken j).trans hfree⟩

/-- **The first take that comes to the completion is decisive.** -/
theorem decides (hfree : (b.job j).taken = false) (hfresh : J.taken = false)
    (hcame : (J.attend b.machine.clock mode).1 = true) :
    Delivers ⟨b, ctx, mode⟩ j J.spec ∧ ((j.take? ctx mode b).2.job j).taken = true ∨
      Denies ⟨b, ctx, mode⟩ j J.spec ∧ ((j.take? ctx mode b).2.job j).taken = false := by
  have hreaches := reaches hs hfit mode hfree
  rw [hcame] at hreaches
  have hfound : J.found b.machine.clock mode = J.verdict.map some := by
    rw [Simulation.Job.found, hcame, if_pos rfl]
  have hanswer := answer_eq hs hfit mode
  have hdenied {status : Status} (hverdict : J.verdict = .error status) :
      ∃ d, answer ⟨b, ctx, mode⟩ j = .error (.ofStatus status d) ∧
        ((j.take? ctx mode b).2.job j).taken = false := by
    rw [hverdict] at hfound
    obtain ⟨d, b', heq, hquiet, -⟩ := Job.take?_refused hs hfit hfree hfound
    rw [hanswer, heq]
    exact ⟨d, rfl, (hquiet.taken j).trans hfree⟩
  have hdelivered {payload : Option Int} (hverdict : J.verdict = .ok payload) :
      b.Delivers j payload (answer ⟨b, ctx, mode⟩ j, after ⟨b, ctx, mode⟩ j) ∧
        ((j.take? ctx mode b).2.job j).taken = true := by
    rw [hverdict] at hfound
    obtain ⟨hdelivers, -⟩ := Job.take?_result hs hfit hfree hfound
    rw [hanswer]
    obtain ⟨_, _, _, -, -, -, -, hmarked⟩ := id hdelivers
    exact ⟨hdelivers, hmarked⟩
  rcases J.verdict_cases hfresh with ⟨hcancelled, hverdict⟩ | ⟨hfinished, hverdict⟩
  · obtain ⟨d, htells, hmark⟩ := hdenied hverdict
    exact .inr ⟨.cancelled hreaches hcancelled htells, hmark⟩
  · rcases hverdict with ⟨payload, houtcome, hverdict⟩ | ⟨houtcome, hverdict⟩ |
      ⟨message, detail, houtcome, hverdict⟩
    · obtain ⟨hdelivers, hmark⟩ := hdelivered hverdict
      exact .inl ⟨.value hreaches hfinished houtcome hdelivers, hmark⟩
    · obtain ⟨hdelivers, hmark⟩ := hdelivered hverdict
      exact .inl ⟨.void hreaches hfinished houtcome hdelivers, hmark⟩
    · obtain ⟨d, htells, hmark⟩ := hdenied hverdict
      exact .inr ⟨.serverError hreaches hfinished houtcome htells, hmark⟩

end Taking

namespace Operation

variable {b : Bridge Simulation} {j : Job} {J : Simulation.Job} {op : Operation Simulation α}

/-- The take that a call is, if it is one. -/
def taking? (b : Bridge Simulation) (op : Operation Simulation α) : Option Taking :=
  op.take?.map fun (_, ctx, mode) => ⟨b, ctx, mode⟩

/-- A call other than a take leaves the stage as it is. -/
theorem stage_of_not_take (hs : b.Stands j J) (hop : op.Drives b j) (htake : op.take? = none)
    {ts : List Taking} (hstage : Stage b j J ts) :
    ∃ J', (op.after b).Stands j J' ∧ J'.spec = J.spec ∧ Stage (op.after b) j J' ts := by
  obtain ⟨clock, hle, hleaves, hmark⟩ := leaves_of_not_take hs hop htake
  have hfollows : J.Follows b.machine.clock (op.settled J b.machine.clock) ∧
      (op.settled J b.machine.clock).taken = J.taken := by
    rw [settled]
    split
    · refine ⟨.cancelUnlessDone _ J, ?_⟩
      rcases J.cancelUnlessDone_cases b.machine.clock with ⟨-, heq⟩ | ⟨-, -, heq⟩ <;> rw [heq]
    · exact ⟨.refl _ J, rfl⟩
  obtain ⟨hfollows, htaken⟩ := hfollows
  refine ⟨_, hleaves.stands, hfollows.spec, ?_⟩
  cases hstage with
  | pending misses unmarked unconsumed =>
    rw [← hfollows.spec] at misses
    exact .pending misses (hmark.trans unmarked) (htaken.trans unconsumed)
  | delivered misses delivers comeLate marked =>
    rw [← hfollows.spec] at misses delivers
    exact .delivered misses delivers comeLate (hmark.trans marked)
  | denied misses denies deniedAgain unmarked consumed done =>
    rw [← hfollows.spec] at misses denies
    refine .denied misses denies deniedAgain (hmark.trans unmarked) (htaken.trans consumed) ?_
    rw [hleaves.clock]
    exact hfollows.isDone hle done

/-- **A take brings a job to the next stage**, or leaves it at the one where it is. -/
theorem stage_of_take (hs : b.Stands j J) (hop : op.Drives b j) {ctx : Option Context}
    {mode : TakeMode} (htake : op.take? = some (j, ctx, mode)) {ts : List Taking}
    (hstage : Stage b j J ts) :
    ∃ J', (op.after b).Stands j J' ∧ J'.spec = J.spec ∧
      Stage (op.after b) j J' (ts ++ [⟨b, ctx, mode⟩]) := by
  obtain ⟨-, hfit⟩ := take_of_drives hop htake
  have hanswer := Taking.answer_eq hs hfit mode
  rw [(spec_of_take htake b).1]
  cases hstage with
  | pending misses unmarked unconsumed =>
    have hleaves := Job.take?_leaves hs hfit unmarked mode
    cases hcame : (J.attend b.machine.clock mode).1 with
    | false =>
      obtain ⟨hmisses, hmark⟩ := Taking.misses hs hfit mode unmarked hcame
      rw [Simulation.Job.taking, hcame, if_neg Bool.false_ne_true] at hleaves
      have hall := List.forall_mem_append.2 ⟨misses, List.forall_mem_singleton.2 hmisses⟩
      exact ⟨J, hleaves.stands, rfl, .pending hall hmark unconsumed⟩
    | true =>
      rw [Simulation.Job.taking, hcame, if_pos rfl] at hleaves
      refine ⟨_, hleaves.stands, rfl, ?_⟩
      rcases Taking.decides hs hfit mode unmarked unconsumed hcame with
        ⟨hdelivers, hmark⟩ | ⟨hdenies, hmark⟩
      · exact .delivered misses hdelivers (List.forall_mem_nil _) hmark
      · refine .denied misses hdenies (List.forall_mem_nil _) hmark rfl ?_
        rw [hleaves.clock]
        exact (J.attend_came b.machine.clock mode).symm.trans hcame
  | delivered misses delivers comeLate marked =>
    -- The mark is set, so the native library is not asked.
    obtain ⟨b', heq, hquiet, hleaves⟩ := Job.take?_late hs hfit marked mode
    rw [heq] at hanswer ⊢
    have hall := List.forall_mem_append.2 ⟨comeLate, List.forall_mem_singleton.2 hanswer⟩
    rw [List.append_assoc, List.cons_append]
    exact ⟨J, hleaves.stands, rfl,
      .delivered misses delivers hall ((hquiet.taken j).trans marked)⟩
  | denied misses denies deniedAgain unmarked consumed done =>
    -- No mark was set, so the native library is asked again, and has nothing left to give.
    have hattend := J.attend_of_done done mode
    have hfound : J.found b.machine.clock mode = .error .clientError := by
      rw [Simulation.Job.found, hattend, J.verdict_of_taken consumed]
      rfl
    obtain ⟨d, b', heq, hquiet, hleaves⟩ := Job.take?_refused hs hfit unmarked hfound
    rw [hattend, Simulation.Job.taking, hattend, if_pos rfl] at hleaves
    rw [heq] at hanswer ⊢
    have hagain : Taking.IsDeniedAgain ⟨b, ctx, mode⟩ j := ⟨d, hanswer⟩
    have hall := List.forall_mem_append.2 ⟨deniedAgain, List.forall_mem_singleton.2 hagain⟩
    rw [List.append_assoc, List.cons_append]
    refine ⟨_, hleaves.stands, rfl,
      .denied misses denies hall ((hquiet.taken j).trans unmarked) rfl ?_⟩
    rw [hleaves.clock]
    exact done

end Operation

/-! ## Along a run -/

namespace Run

/-- The takes in the course of a run, in order. -/
def takings {b : Bridge Simulation} : {b' : Bridge Simulation} → Run b b' → List Taking
  | _, done => []
  | _, @call _ _ b' _ run op _ => run.takings ++ (op.taking? b').toList

variable {b b' : Bridge Simulation} {j : Job} {J : Simulation.Job}

/-- **The result of a job is given once, to the take that first reaches its completion.**  The takes
before it miss the completion; those after a result that was delivered are refused as coming late,
and those after a result that was denied are refused by the native library. -/
theorem result_protocol (run : Run b b') (hrun : run.Drives j) (hs : b.Stands j J)
    (hfresh : J.taken = false) (hfree : (b.job j).taken = false) :
    ∃ J', b'.Stands j J' ∧ J'.spec = J.spec ∧ Stage b' j J' run.takings := by
  induction run with
  | done => exact ⟨J, hs, rfl, .pending (List.forall_mem_nil _) hfree hfresh⟩
  | call run op known ih =>
    obtain ⟨J', hs', hspec, hstage⟩ := ih hrun.1
    rw [takings, Operation.taking?]
    rcases htake : op.take? with _ | ⟨j', ctx, mode⟩
    · obtain ⟨J'', hs'', hspec', hstage'⟩ := op.stage_of_not_take hs' hrun.2 htake hstage
      rw [Option.map_none, Option.toList_none, List.append_nil]
      exact ⟨J'', hs'', hspec'.trans hspec, hstage'⟩
    · obtain ⟨rfl, -⟩ := Operation.take_of_drives hrun.2 htake
      obtain ⟨J'', hs'', hspec', hstage'⟩ := op.stage_of_take hs' hrun.2 htake hstage
      exact ⟨J'', hs'', hspec'.trans hspec, hstage'⟩

/-- A value that is ready after five units: a take that waits for two, one that waits for as long as
it needs, and one that comes late. -/
theorem result_protocol_of_patience :
    ∃ (b' : Bridge Simulation)
      (run : Run (.ofJob ⟨"", some 5, .value 7, 0, none, none, none⟩ .inspect) b'),
      run.Drives ⟨0⟩ ∧ run.takings.length = 3 ∧
        ∃ J, b'.Stands ⟨0⟩ J ∧ Stage b' ⟨0⟩ J run.takings := by
  let b : Bridge Simulation := .ofJob ⟨"", some 5, .value 7, 0, none, none, none⟩ .inspect
  let run₁ := (Run.done (b := b)).call (.jobTakeFor ⟨0⟩ none 2) (by decide)
  let run₂ := run₁.call (.jobTake ⟨0⟩ none) (by decide)
  let run := run₂.call (.jobTakeIfReady ⟨0⟩ none) (by decide)
  have hrun : run.Drives ⟨0⟩ := ⟨⟨⟨trivial, rfl, fit_none _⟩, rfl, fit_none _⟩, rfl, fit_none _⟩
  obtain ⟨hs, hfree⟩ := Bridge.ofJob_stands ⟨"", some 5, .value 7, 0, none, none, none⟩ .inspect
  obtain ⟨J, hs', -, hstage⟩ := run.result_protocol hrun hs rfl hfree
  exact ⟨_, run, hrun, rfl, J, hs', hstage⟩

end Run

end HandleBridge
