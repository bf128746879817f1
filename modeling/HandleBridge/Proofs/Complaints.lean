import HandleBridge.Proofs.Telling

/-!
# Proofs/Complaints — what is reported to a take that fails

`Simulation.Job.complaint` is the report that a take of the simulated library leaves with its
context.  A take of an open job that is not marked fails with that report, and carries its snapshot
if it was given an open context (`Job.take?_complains`).
-/

namespace HandleBridge

open HandleBridge.Action Bridge Simulation

variable {α : Type}

namespace Simulation

/-! ## Reports -/

namespace Job

/-- What is reported to a take that came to the completion of a job and is given no result. -/
def objection (j : Job) : Option Report :=
  if j.taken then some (localReport .clientError ("Job<" ++ j.label ++ "> already taked"))
  else if j.ending = some .cancelled then
    some (localReport .clientError ("Job<" ++ j.label ++ "> cancelled"))
  else
    match j.spec.outcome with
    | .serverError message detail => some ⟨.serverError, message, some detail⟩
    | .value _ | .void => none

/-- What is reported to a take that did not come to the completion. -/
def excuse (j : Job) : TakeMode → Option Report
  | .blocking => some (localReport .ioError ("Job<" ++ j.label ++ "> lost its session"))
  | .bounded _ => some (localReport .timeout ("Job<" ++ j.label ++ "> timeout"))
  | .ifReady => none

/-- **What is reported to a take**, if it fails. -/
def complaint (j : Job) (now : Nat) (mode : TakeMode) : Option Report :=
  if (j.attend now mode).1 then j.objection else j.excuse mode

variable {j : Job} {r : Report} {now : Nat} {mode : TakeMode}

theorem complaint_of_missed {limit : Nat} (h : (j.attend now (.bounded limit)).1 = false) :
    j.complaint now (.bounded limit) =
      some (localReport .timeout ("Job<" ++ j.label ++ "> timeout")) := by
  rw [complaint, h]
  rfl

theorem complaint_of_taken (hcame : (j.attend now mode).1 = true) (h : j.taken = true) :
    j.complaint now mode =
      some (localReport .clientError ("Job<" ++ j.label ++ "> already taked")) := by
  rw [complaint, hcame, objection, h]
  rfl

theorem complaint_of_cancelled (hcame : (j.attend now mode).1 = true) (hfree : j.taken = false)
    (h : j.ending = some .cancelled) :
    j.complaint now mode =
      some (localReport .clientError ("Job<" ++ j.label ++ "> cancelled")) := by
  rw [complaint, hcame, objection, hfree, h]
  rfl

theorem verdict_of_objection (h : j.objection = some r) : j.verdict = .error r.status := by
  rw [objection] at h
  rw [verdict]
  split at h
  · rename_i htaken
    cases h
    rw [htaken]
    rfl
  · rename_i hfree
    split at h
    · rename_i hcancelled
      cases h
      rw [hcancelled, decide_eq_true rfl, Bool.or_true]
      rfl
    · rename_i hnot
      rw [Bool.eq_false_iff.2 hfree, decide_eq_false hnot]
      split at h
      · rename_i houtcome
        cases h
        rw [houtcome]
        rfl
      · cases h
      · cases h

/-- A take fails with the status that is reported. -/
theorem found_of_complaint (h : j.complaint now mode = some r) :
    j.found now mode = .error r.status := by
  rw [complaint] at h
  rw [found]
  split at h
  · rename_i hcame
    rw [if_pos hcame, verdict_of_objection h]
    rfl
  · rename_i hmissed
    rw [if_neg hmissed]
    cases mode <;> cases h <;> rfl

end Job

section Slots

variable {m : Machine Simulation} {h : Handle} (hslot : (m.native.slot? h).isSome = true)

include hslot

theorem slot?_report (latest : Option Report) :
    (m.native.report (some h) latest).slot? h = some latest := by
  obtain ⟨held, hheld⟩ := Option.isSome_iff_exists.1 hslot
  exact (m.slot?_filed h latest).trans (congrArg (Option.map fun _ => latest) hheld)

/-- What comes to the completion of a job leaves its objection, if it has one. -/
theorem consume_slot (target : Handle) (j : Job) :
    (consume (some h) target j m).2.native.slot? h = some j.objection := by
  let m₁ : Machine Simulation :=
    { m with native := m.native.setJob target { j with taken := true } }
  have hslot₁ : (m₁.native.slot? h).isSome = true := hslot
  unfold consume
  rw [Job.objection]
  split
  · exact slot?_report hslot _
  · dsimp only
    rw [Job.ending]
    split
    · exact slot?_report hslot₁ _
    · cases j.spec.outcome with
      | value payload =>
        let m₂ : Machine Simulation :=
          { m₁ with native := (m₁.native.newValue ⟨payload, j.spec.valueProbe⟩).2 }
        exact slot?_report (m := m₂) hslot _
      | void => exact slot?_report hslot₁ _
      | serverError => exact slot?_report hslot₁ _

/-- **A take leaves with its context what is reported of it.** -/
theorem takeCall_slot {target : Handle} {j : Job} (hj : m.native.job? (some target) = some j)
    (hopen : j.closed = false) (mode : TakeMode) :
    (takeCall (some h) target m mode).2.native.slot? h = some (j.complaint m.clock mode) := by
  have hcame (clock : Nat) := consume_slot (m := { m with clock }) hslot target j
  cases mode with
  | blocking =>
    rw [takeCall, jobTake, onOpenJob_apply hj _ hopen, Job.complaint, Job.attend]
    rcases j.due with _ | instant
    · exact slot?_report hslot _
    · exact hcame _
  | bounded limit =>
    rw [takeCall, jobTakeFor, onOpenJob_apply hj _ hopen, Job.complaint, Job.attend, waiting]
    rcases await j.due (some (Duration.saturate limit)) m.clock with ⟨_ | _, clock⟩
    · exact slot?_report (m := { m with clock }) hslot _
    · exact hcame _
  | ifReady =>
    rw [takeCall, jobTakeIfReady, onJob_apply hj, Job.complaint, Job.attend]
    change ((((if j.closed then _ else _ : Call Simulation _) m).map _ id).2.native.slot? h) = _
    rw [if_neg (Bool.eq_false_iff.1 hopen)]
    cases j.isDone m.clock with
    | false => exact slot?_report hslot _
    | true => exact hcame _

end Slots

end Simulation

/-! ## Takes -/

namespace Job

variable {b : Bridge Simulation} {j : Job} {J : Simulation.Job} {ctx : Option Context}
  (hs : b.Stands j J)

include hs

/-- A take of a job that is not marked leaves the machine of one native call. -/
theorem takeOnce_machine (hfit : b.Fit ctx) (hfree : (b.job j).taken = false) (mode : TakeMode) :
    ∃ c, b.passed ctx = some c ∧
      (j.takeOnce ctx mode b).2.machine = (takeCall c (b.handleOf j) b.machine mode).2 := by
  obtain ⟨valueOut, readyOut, b₀, hquiet, hmachine, -, -, -, htake⟩ :=
    takeOnce_of_open hs.live.2 ctx mode
  rw [if_neg (Bool.eq_false_iff.1 hs.live.1), if_neg (Bool.eq_false_iff.1 hfree)] at htake
  obtain ⟨c, hpassed, -, hafter⟩ :=
    takeNatively_reported hs.library (hquiet.fit hfit) (b.handleOf j) valueOut readyOut mode
  rw [hmachine] at hafter
  refine ⟨c, (hquiet.passed ctx).symm.trans hpassed, ?_⟩
  let machine (x : Except Failure Take × Bridge Simulation) : Machine Simulation := x.2.machine
  rw [htake]
  rcases hresult : takeNatively (b.job j) ctx (b.handleOf j) valueOut readyOut mode b₀
    with ⟨e | _ | value, b'⟩ <;> rw [hresult] at hafter
  · exact (congrArg machine (bind_of_error hresult)).trans hafter
  · exact (congrArg machine (bind_of_ok hresult)).trans hafter
  · exact (congrArg machine (bind_of_ok hresult)).trans hafter

/-- **A take that fails carries the snapshot of what is reported** to the context that it is given,
and the context keeps that. -/
theorem take?_complains {X : Context} {h : Handle} (hX : b.Knows X h)
    (hopen : (b.resource (b.context X).resource).closed = false)
    (hslot : (b.machine.native.slot? h).isSome = true) (hfree : (b.job j).taken = false)
    {mode : TakeMode} {r : Report} (hcomplaint : J.complaint b.machine.clock mode = some r) :
    (j.take? (some X) mode b).1 = .error (.ofStatus r.status (some (snapshot (some r)))) ∧
      (j.take? (some X) mode b).2.machine.native.slot? h = some (some r) := by
  have hfit := hX.fit hopen
  obtain ⟨b', hquiet, -, htake⟩ := takeOnce_leaves hs hfit hfree mode
  rw [Simulation.Job.found_of_complaint hcomplaint] at htake
  obtain ⟨d, htake⟩ := htake
  have htold := takeOnce_told hX hslot hs.library mode
  rw [htake] at htold
  obtain ⟨r', -, hslot', heq⟩ := htold.failed _ rfl rfl (congrArg List.length hquiet.conversions)
  -- The context keeps what the entry point left there.
  obtain ⟨c, hpassed, hmachine⟩ := takeOnce_machine hs hfit hfree mode
  obtain rfl : some h = c := Option.some.inj ((hX.backs hopen).passed.symm.trans hpassed)
  have hleft := takeCall_slot hslot hs.native hs.unclosed mode
  rw [← hmachine, htake, hcomplaint] at hleft
  obtain rfl : r' = r := Option.some.inj (Option.some.inj (hslot'.symm.trans hleft))
  rw [take?, bind_of_ok (read_apply _ _), bind_of_ok (read_apply _ _), bind_of_error htake, heq]
  exact ⟨rfl, hslot'⟩

end Job

end HandleBridge
