import HandleBridge.Bridge.Log
import HandleBridge.Simulation.Memory

/-!
# Proofs/Completion — when a simulated job completes, and what can still change that

Every call on a job computes its completion anew, from the instant at which the job is ready and the
instant at which a cancel request takes effect.  Only the second ever changes: once, while the job
is not done, and to an instant that has not passed.  `Job.Follows` is that relation.  So a job that
is done stays done, the same way, and what was not done in the past is not done in retrospect.
-/

namespace HandleBridge.Simulation

open Simulation.Job

/-! ## Waiting -/

section Waiting

variable {due limit : Option Nat} {now later : Nat}

theorem hasCome_iff : hasCome due now = true ↔ ∃ instant, due = some instant ∧ instant ≤ now := by
  cases due <;> simp [hasCome]

theorem hasCome_mono (h : now ≤ later) (hcome : hasCome due now = true) :
    hasCome due later = true := by
  obtain ⟨instant, hdue, hle⟩ := hasCome_iff.1 hcome
  exact hasCome_iff.2 ⟨instant, hdue, Nat.le_trans hle h⟩

/-- Waiting says whether the instant has come by the end of the wait. -/
theorem await_came (due limit : Option Nat) (now : Nat) :
    (await due limit now).1 = hasCome due (await due limit now).2 := by
  cases due with
  | none => cases limit <;> rfl
  | some instant =>
    cases limit with
    | none => exact (decide_eq_true (Nat.le_max_left instant now)).symm
    | some limit =>
      simp only [await]
      split
      · simp [hasCome, *]
      · split
        · simp [hasCome]
        · simp only [hasCome, false_eq_decide_iff]
          omega

theorem le_await (due limit : Option Nat) (now : Nat) : now ≤ (await due limit now).2 := by
  cases due with
  | none => cases limit <;> simp [await]
  | some instant =>
    cases limit with
    | none => exact Nat.le_max_right _ _
    | some limit =>
      simp only [await]
      split
      · exact Nat.le_refl now
      · split
        · exact Nat.le_of_lt (Nat.lt_of_not_le ‹_›)
        · exact Nat.le_add_right _ _

/-- Nobody waits for what has come. -/
theorem await_of_come (h : hasCome due now = true) (limit : Option Nat) :
    await due limit now = (true, now) := by
  obtain ⟨instant, rfl, hle⟩ := hasCome_iff.1 h
  cases limit with
  | none => exact congrArg (Prod.mk true) (Nat.max_eq_right hle)
  | some limit => exact if_pos hle

/-- To wait for no time is to look. -/
theorem await_zero (due : Option Nat) (now : Nat) :
    await due (some 0) now = (hasCome due now, now) := by
  cases h : hasCome due now with
  | true => exact await_of_come h _
  | false =>
    cases due with
    | none => rfl
    | some instant =>
      have hlt : now < instant := by simpa [hasCome] using h
      rw [await, if_neg (Nat.not_le.2 hlt), if_neg (by omega), Nat.add_zero]

end Waiting

namespace Job

/-! ## Completion -/

/-- A cancel request takes effect strictly before the job is ready. -/
def Cancelled (j : Job) : Prop :=
  ∃ cancel, j.cancelAt = some cancel ∧ ∀ ready, j.readyAt = some ready → cancel < ready

/-- How the job completes. -/
def ending (j : Job) : Option Ending := j.completion.map (·.2)

theorem ending_eq_cancelled (j : Job) : j.ending = some .cancelled ↔ j.Cancelled := by
  rw [ending, completion, Cancelled]
  rcases j.readyAt with _ | ready <;> rcases j.cancelAt with _ | cancel
  · simp
  · simp
  · simp
  · by_cases h : cancel < ready <;> simp [h]

/-- **The job completes when it is ready or when a cancel request takes effect**, whichever comes
first. -/
theorem due_eq_min? (j : Job) : j.due = (j.readyAt.toList ++ j.cancelAt.toList).min? := by
  rw [due, completion]
  rcases j.readyAt with _ | ready <;> rcases j.cancelAt with _ | cancel
  · rfl
  · rfl
  · rfl
  · by_cases h : cancel < ready
    · simp [List.min?_cons, h, Nat.min_eq_right (Nat.le_of_lt h)]
    · simp [List.min?_cons, h, Nat.min_eq_left (Nat.le_of_not_lt h)]

theorem isDone_eq (j : Job) (now : Nat) :
    j.isDone now = (hasCome j.readyAt now || hasCome j.cancelAt now) := by
  rw [isDone, due, completion]
  rcases j.readyAt with _ | ready <;> rcases j.cancelAt with _ | cancel
  · rfl
  · simp [hasCome]
  · simp [hasCome]
  · have hcome : hasCome (some (min ready cancel)) now =
        (hasCome (some ready) now || hasCome (some cancel) now) := by
      rw [Bool.eq_iff_iff]
      simp only [hasCome, decide_eq_true_eq, Bool.or_eq_true]
      omega
    by_cases h : cancel < ready
    · rw [← hcome, Nat.min_eq_right (Nat.le_of_lt h)]
      simp [h]
    · rw [← hcome, Nat.min_eq_left (Nat.le_of_not_lt h)]
      simp [h]

theorem isDone_mono {j : Job} {now later : Nat} (h : now ≤ later) (hdone : j.isDone now = true) :
    j.isDone later = true := hasCome_mono h hdone

/-- Two jobs with the same instants complete at the same time and in the same way. -/
theorem completion_congr {j j' : Job} (hspec : j'.spec = j.spec) (hcreated : j'.created = j.created)
    (hcancel : j'.cancelAt = j.cancelAt) : j'.completion = j.completion := by
  rw [completion, readyAt, hspec, hcreated, hcancel, completion, readyAt]

/-! ## Cancel requests -/

/-- **A cancel request sets the instant once**, and only while the job is not done. -/
theorem cancelUnlessDone_cases (j : Job) (now : Nat) :
    ((j.isDone now = true ∨ j.cancelAt.isSome = true) ∧ j.cancelUnlessDone now = j) ∨
      j.isDone now = false ∧ j.cancelAt = none ∧
        j.cancelUnlessDone now = { j with cancelAt := some (now + j.spec.cancelLatency) } := by
  rw [cancelUnlessDone]
  cases hdone : j.isDone now with
  | true => exact .inl ⟨.inl rfl, rfl⟩
  | false =>
    rcases hcancel : j.cancelAt with _ | instant
    · refine .inr ⟨rfl, rfl, ?_⟩
      rw [if_neg Bool.false_ne_true, requestCancel, hcancel, Option.getD_none]
    · refine .inl ⟨.inr rfl, ?_⟩
      rw [if_neg Bool.false_ne_true, requestCancel, hcancel, Option.getD_some, ← hcancel]

/-- After a cancel request the job completes some time. -/
theorem isSome_due_cancelUnlessDone (j : Job) (now : Nat) :
    (j.cancelUnlessDone now).due.isSome = true := by
  have hdone (h : j.isDone now = true) : j.due.isSome = true := by
    obtain ⟨instant, hdue, -⟩ := hasCome_iff.1 h
    exact Option.isSome_of_eq_some hdue
  have hcancel {j : Job} (h : j.cancelAt.isSome = true) : j.due.isSome = true := by
    rw [due_eq_min?]
    obtain ⟨instant, heq⟩ := Option.isSome_iff_exists.1 h
    simp [heq]
  rcases j.cancelUnlessDone_cases now with ⟨h | h, heq⟩ | ⟨-, -, heq⟩ <;> rw [heq]
  · exact hdone h
  · exact hcancel h
  · exact hcancel rfl

/-! ## The course of time -/

/-- **What becomes of a job after an instant**: it may be consumed, and it may be cancelled once,
while it is not done and with effect from an instant that has not passed. -/
structure Follows (now : Nat) (j j' : Job) : Prop where
  spec : j'.spec = j.spec
  created : j'.created = j.created
  closed : j'.closed = j.closed
  taken : j.taken = true → j'.taken = true
  cancelAt : j'.cancelAt = j.cancelAt ∨
    j.isDone now = false ∧ j.cancelAt = none ∧ ∃ instant, now ≤ instant ∧ j'.cancelAt = some instant

namespace Follows

variable {j j' j'' : Job} {now later : Nat}

theorem refl (now : Nat) (j : Job) : Follows now j j := ⟨rfl, rfl, rfl, id, .inl rfl⟩

/-- A job that is done completes as before. -/
theorem completion_of_done (h : Follows now j j') (hdone : j.isDone now = true) :
    j'.completion = j.completion := by
  rcases h.cancelAt with hcancel | ⟨hnot, -⟩
  · exact completion_congr h.spec h.created hcancel
  · exact absurd (hdone.symm.trans hnot) (by decide)

theorem isDone (h : Follows now j j') (hle : now ≤ later) (hdone : j.isDone now = true) :
    j'.isDone later = true := by
  rw [Job.isDone, due, h.completion_of_done hdone]
  exact isDone_mono hle hdone

theorem readyAt (h : Follows now j j') : j'.readyAt = j.readyAt := by
  rw [Job.readyAt, h.spec, h.created, Job.readyAt]

/-- **What was not done in the past is not done in retrospect.** -/
theorem isDone_of_lt (h : Follows now j j') {earlier : Nat} (hlt : earlier < now) :
    j'.isDone earlier = j.isDone earlier := by
  rw [isDone_eq, isDone_eq, h.readyAt]
  rcases h.cancelAt with hcancel | ⟨-, hnone, instant, hle, hcancel⟩
  · rw [hcancel]
  · rw [hnone, hcancel]
    have hnot : ¬ instant ≤ earlier := by omega
    simp [hasCome, hnot]

theorem trans (h : Follows now j j') (hle : now ≤ later) (h' : Follows later j' j'') :
    Follows now j j'' := by
  refine ⟨h'.spec.trans h.spec, h'.created.trans h.created, h'.closed.trans h.closed,
    h'.taken ∘ h.taken, ?_⟩
  rcases h'.cancelAt with hcancel' | ⟨hnot, hnone, instant, hlater, hcancel'⟩
  · rw [hcancel']
    exact h.cancelAt
  · rcases h.cancelAt with hcancel | ⟨-, -, instant', -, hcancel⟩
    · refine .inr ⟨?_, hcancel.symm.trans hnone, instant, Nat.le_trans hle hlater, hcancel'⟩
      exact Bool.eq_false_iff.2 fun hdone => Bool.eq_false_iff.1 hnot (h.isDone hle hdone)
    · exact absurd (hcancel.symm.trans hnone) (Option.some_ne_none instant')

theorem consume (now : Nat) (j : Job) : Follows now j { j with taken := true } :=
  ⟨rfl, rfl, rfl, fun _ => rfl, .inl rfl⟩

theorem cancelUnlessDone (now : Nat) (j : Job) : Follows now j (j.cancelUnlessDone now) := by
  rcases j.cancelUnlessDone_cases now with ⟨-, heq⟩ | ⟨hnot, hnone, heq⟩ <;> rw [heq]
  · exact refl now j
  · exact ⟨rfl, rfl, rfl, id, .inr ⟨hnot, hnone, _, Nat.le_add_right _ _, rfl⟩⟩

end Follows

/-! ## Takes -/

/-- How a take waits for the completion: whether it came to it, and the clock afterwards. -/
def attend (j : Job) (now : Nat) : TakeMode → Bool × Nat
  | .blocking => await j.due none now
  | .bounded limit => await j.due (some (Duration.saturate limit)) now
  | .ifReady => (j.isDone now, now)

/-- What the job has for a take that came to its completion: the payload of its value, if it has
one, or a refusal. -/
def verdict (j : Job) : Except Status (Option Int) :=
  if j.taken || j.ending = some .cancelled then .error .clientError
  else match j.spec.outcome with
    | .value payload => .ok (some payload)
    | .void => .ok none
    | .serverError _ _ => .error .serverError

/-- What is said to a take that did not come to the completion. -/
def notYet : TakeMode → Except Status (Option (Option Int))
  | .blocking => .error .ioError
  | .bounded _ => .error .timeout
  | .ifReady => .ok none

/-- **What a take finds**: a failure, nothing yet, or a result. -/
def found (j : Job) (now : Nat) (mode : TakeMode) : Except Status (Option (Option Int)) :=
  if (j.attend now mode).1 then j.verdict.map some else notYet mode

/-- The job after a take: what came to its completion consumes it. -/
def taking (j : Job) (now : Nat) (mode : TakeMode) : Job :=
  if (j.attend now mode).1 then { j with taken := true } else j

variable {j : Job} {now : Nat} {mode : TakeMode}

/-- A take comes to the completion if the job is done by the end of the take. -/
theorem attend_came (j : Job) (now : Nat) (mode : TakeMode) :
    (j.attend now mode).1 = j.isDone (j.attend now mode).2 := by
  cases mode with
  | blocking => exact await_came _ _ _
  | bounded limit => exact await_came _ _ _
  | ifReady => rfl

theorem le_attend (j : Job) (now : Nat) (mode : TakeMode) : now ≤ (j.attend now mode).2 := by
  cases mode with
  | blocking => exact le_await _ _ _
  | bounded limit => exact le_await _ _ _
  | ifReady => exact Nat.le_refl now

/-- No take waits for a job that is done. -/
theorem attend_of_done (h : j.isDone now = true) (mode : TakeMode) :
    j.attend now mode = (true, now) := by
  cases mode with
  | blocking => exact await_of_come h _
  | bounded limit => exact await_of_come h _
  | ifReady => exact congrArg (·, now) h

theorem attend_bounded_zero (j : Job) (now : Nat) :
    j.attend now (.bounded 0) = (j.isDone now, now) := by
  rw [attend, Duration.saturate, Nat.zero_min, await_zero, isDone]

theorem follows_taking (j : Job) (now : Nat) (mode : TakeMode) :
    Follows now j (j.taking now mode) := by
  rw [taking]
  split
  · exact .consume now j
  · exact .refl now j

/-- A take that waits for as long as it needs misses only a completion that never comes. -/
theorem never_of_missed (h : (j.attend now .blocking).1 = false) :
    j.readyAt = none ∧ j.cancelAt = none := by
  have hdue : j.due = none := by
    rcases hdue : j.due with _ | instant
    · rfl
    · rw [attend, hdue, await] at h
      exact Bool.noConfusion h
  rw [due_eq_min?, List.min?_eq_none_iff, List.append_eq_nil_iff] at hdue
  exact ⟨Option.toList_eq_nil_iff.1 hdue.1, Option.toList_eq_nil_iff.1 hdue.2⟩

theorem verdict_of_taken (h : j.taken = true) : j.verdict = .error .clientError := by
  rw [verdict, h, Bool.true_or, if_pos rfl]

/-- What a job that was not consumed has for a take. -/
theorem verdict_cases (h : j.taken = false) :
    (j.Cancelled ∧ j.verdict = .error .clientError) ∨
    ¬ j.Cancelled ∧
      ((∃ payload, j.spec.outcome = .value payload ∧ j.verdict = .ok (some payload)) ∨
        (j.spec.outcome = .void ∧ j.verdict = .ok none) ∨
        ∃ message detail, j.spec.outcome = .serverError message detail ∧
          j.verdict = .error .serverError) := by
  by_cases hcancelled : j.Cancelled
  · refine .inl ⟨hcancelled, ?_⟩
    rw [verdict, j.ending_eq_cancelled.2 hcancelled, decide_eq_true rfl, Bool.or_true, if_pos rfl]
  · refine .inr ⟨hcancelled, ?_⟩
    have hending : ¬ j.ending = some .cancelled := fun hend =>
      hcancelled (j.ending_eq_cancelled.1 hend)
    rw [verdict, h, Bool.false_or, if_neg (by simpa using hending)]
    cases j.spec.outcome with
    | value payload => exact .inl ⟨payload, rfl, rfl⟩
    | void => exact .inr (.inl ⟨rfl, rfl⟩)
    | serverError message detail => exact .inr (.inr ⟨message, detail, rfl, rfl⟩)

/-- No job has a timeout in store. -/
theorem verdict_ne_timeout (j : Job) : j.verdict ≠ .error .timeout := by
  rw [verdict]
  split
  · exact fun h => absurd (Except.error.inj h) (by decide)
  · split <;> intro h <;> cases h

end Job

end HandleBridge.Simulation
