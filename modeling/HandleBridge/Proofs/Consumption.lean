import HandleBridge.Proofs.ExactlyOnce
import HandleBridge.Proofs.Refusal

/-!
# Proofs/Consumption — the result of a job is consumed once

A job is marked, and its converter invoked, in the step in which a take obtains the result from the
native library (`Bridge.handedOver`), whatever the library answered before and whatever the
converter makes of the value.  The mark stays, and every later take is refused.
-/

namespace HandleBridge

open HandleBridge.Action Bridge

variable {σ α : Type}

/-! ## Takes -/

namespace Operation

/-- The job, the context and the mode of a call that takes a result. -/
def take? : {α : Type} → Operation σ α → Option (Job × Option Context × TakeMode)
  | _, jobTake j ctx => some (j, ctx, .blocking)
  | _, jobTakeFor j ctx limit => some (j, ctx, .bounded limit)
  | _, jobTakeIfReady j ctx => some (j, ctx, .ifReady)
  | _, _ => none

/-- The value that a call obtains from a job. -/
def obtained (b : Bridge σ) (j : Job) (op : Operation σ α) : Option (Option Handle) :=
  op.take?.bind fun (j', ctx, mode) => if j' = j then b.handedOver j ctx mode else none

/-- A call that takes a result is the take that it is made of, but for what is made of a result that
is not there. -/
theorem spec_of_take {op : Operation σ α} {j : Job} {ctx : Option Context} {mode : TakeMode}
    (h : op.take? = some (j, ctx, mode)) (b : Bridge σ) :
    op.after b = (j.take? ctx mode b).2 ∧
      (∀ e, (j.take? ctx mode b).1 = .error e → (op.perform b).1 = .error e) ∧
      (op.Known b → b.Has (.job j)) := by
  have hfails (symbol : Symbol) (e : Failure) (he : (j.take? ctx mode b).1 = .error e) :
      (Job.takeExpecting symbol (j.take? ctx mode) b).1 = .error e :=
    congrArg Prod.fst (bind_of_error (Prod.ext he rfl))
  cases op with
  | jobTake j ctx =>
    cases h
    exact ⟨Job.takeExpecting_snd _ _ b, hfails _, fun known => known _ (.head _)⟩
  | jobTakeFor j ctx limit =>
    cases h
    exact ⟨Job.takeExpecting_snd _ _ b, hfails _, fun known => known _ (.head _)⟩
  | jobTakeIfReady j ctx =>
    cases h
    exact ⟨rfl, fun _ => id, fun known => known _ (.head _)⟩
  | _ => cases h

theorem consumed_eq (op : Operation σ α) : op.consumed = op.take?.map (·.1) := by
  cases op <;> rfl

end Operation

namespace Bridge

theorem conversionsOf_converted (b : Bridge σ) (j : Job) (value : Option Handle) :
    (b.note (.converted j value)).conversionsOf j = b.conversionsOf j ++ [value] := by
  simp [conversionsOf, conversions, note, Event.conversion?]

/-- What a take needs in order to obtain a value. -/
theorem handedOver_eq_some {b : Bridge σ} {j : Job} {ctx : Option Context} {mode : TakeMode}
    {value : Option Handle} :
    b.handedOver j ctx mode = some value ↔
      (b.job j).taken = false ∧ b.Live (b.job j).resource ∧ ∃ c, b.passed ctx = some c ∧
        (b.job j).answer c (b.resource (b.job j).resource).handle b.machine mode =
          some (some value) := by
  rw [handedOver, reach, Live]
  cases (b.job j).taken with
  | true => simp
  | false =>
    cases (b.resource (b.job j).resource).closed <;>
      cases (b.manager (b.resource (b.job j).resource).manager).closed <;>
      simp [Option.bind_eq_some_iff, Option.join_eq_some_iff]

end Bridge

namespace Job

variable {b : Bridge σ} {j : Job} {ctx : Option Context} {mode : TakeMode}

/-- **A take that obtains a value marks the job and invokes the converter on the value**, whatever
the converter makes of it. -/
theorem take?_consumes (h : b.WellFormed) (hj : b.Has (.job j)) {value : Option Handle}
    (hvalue : b.handedOver j ctx mode = some value) :
    (j.take? ctx mode b).2.conversionsOf j = b.conversionsOf j ++ [value] ∧
      ((j.take? ctx mode b).2.job j).taken = true := by
  have hlive := (handedOver_eq_some.1 hvalue).2.1
  obtain ⟨b₀, b₁, label, hquiet, hquiet', heq⟩ := take?_of_some hvalue
  let b₂ := b₁.note (.converted j value)
  have htame : Tame (some j) b b₂ :=
    ((hquiet.tame.trans (Tame.markTaken j b₀)).trans hquiet'.tame).trans (Tame.converted j value b₁)
  obtain ⟨hwf, hevolves⟩ := htame h
  have hconvert : Tame none b₂ (j.take? ctx mode b).2 := by
    rw [heq, map_apply]
    exact Tame.convert _ _ b₂ (hevolves.has _ (has_of_manager_open hlive.2))
  obtain ⟨-, hrest⟩ := hconvert hwf
  have hnot : none ≠ some j := Option.some_ne_none j |>.symm
  have hmarked : ((b₀.modifyJob j (·.markTaken)).job j).taken = true := by
    rw [job_modifyJob, if_pos ⟨rfl, (hquiet.has _).2 hj⟩]
    rfl
  refine ⟨?_, ?_⟩
  · rw [hrest.conversions j hnot, conversionsOf_converted, hquiet'.conversionsOf,
      ← hquiet.conversionsOf]
    rfl
  · rw [hrest.taken j hnot]
    exact (hquiet'.taken j).trans hmarked

end Job

namespace Operation

variable {b : Bridge σ}

/-- A call obtains a value if it is a take that does. -/
theorem obtained_eq_some {op : Operation σ α} {j : Job} {value : Option Handle} :
    op.obtained b j = some value ↔ ∃ ctx mode, op.take? = some (j, ctx, mode) ∧
      (b.job j).taken = false ∧ b.Live (b.job j).resource ∧ ∃ c, b.passed ctx = some c ∧
        (b.job j).answer c (b.resource (b.job j).resource).handle b.machine mode =
          some (some value) := by
  rw [obtained, Option.bind_eq_some_iff]
  constructor
  · rintro ⟨⟨j', ctx, mode⟩, htake, hvalue⟩
    obtain ⟨rfl, hvalue⟩ := Option.ite_none_right_eq_some.1 hvalue
    exact ⟨ctx, mode, htake, handedOver_eq_some.1 hvalue⟩
  · rintro ⟨ctx, mode, htake, hvalue⟩
    exact ⟨_, htake, (if_pos rfl).trans (handedOver_eq_some.2 hvalue)⟩

theorem taken_of_obtained {op : Operation σ α} {j : Job} {value : Option Handle}
    (h : op.obtained b j = some value) : (b.job j).taken = false := by
  obtain ⟨_, _, -, htaken, -⟩ := obtained_eq_some.1 h
  exact htaken

/-- Registering by hand has nothing to do with jobs. -/
theorem keeps_jobs_of_rebooks (op : Operation σ α) (h : op.rebooks = true) (j : Job) :
    (op.after b).conversionsOf j = b.conversionsOf j ∧
      ((op.after b).job j).taken = (b.job j).taken := by
  cases op with
  | register m r =>
    rw [after, perform]
    rcases m.register_cases b r with ⟨e, heq⟩ | ⟨heq, -⟩ <;> rw [heq] <;> exact ⟨rfl, rfl⟩
  | deregister m r =>
    rw [after, perform, m.deregister_apply]
    split
    · have hquiet := Quiet.remarked (b.modifyManager m (·.withdraw (b.resource r).id))
        (.deregistered (b.resource r).id (b.resource r).kind)
      exact ⟨hquiet.conversionsOf j, hquiet.taken j⟩
    · exact ⟨rfl, rfl⟩
  | _ => exact Bool.noConfusion h

/-- **A call marks a job, and invokes the converter, exactly when it obtains the value.** -/
theorem consumes (op : Operation σ α) (known : op.Known b) (h : b.WellFormed) (j : Job) :
    (op.after b).conversionsOf j = b.conversionsOf j ++ (op.obtained b j).toList ∧
      ((op.after b).job j).taken = ((b.job j).taken || (op.obtained b j).isSome) := by
  have hkeep (hnone : op.obtained b j = none)
      (hsame : (op.after b).conversionsOf j = b.conversionsOf j ∧
        ((op.after b).job j).taken = (b.job j).taken) :
      (op.after b).conversionsOf j = b.conversionsOf j ++ (op.obtained b j).toList ∧
        ((op.after b).job j).taken = ((b.job j).taken || (op.obtained b j).isSome) := by
    rw [hnone, hsame.1, hsame.2]
    exact ⟨(List.append_nil _).symm, (Bool.or_false _).symm⟩
  by_cases hj : op.consumed = some j
  · rw [consumed_eq] at hj
    obtain ⟨⟨j', ctx, mode⟩, htake, rfl⟩ := Option.map_eq_some_iff.1 hj
    obtain ⟨hafter, -, hhas⟩ := spec_of_take htake b
    have hobtained : op.obtained b j' = b.handedOver j' ctx mode := by
      rw [obtained, htake]
      exact if_pos rfl
    rcases hvalue : b.handedOver j' ctx mode with _ | value
    · have hquiet := Job.take?_of_none hvalue
      rw [← hafter] at hquiet
      exact hkeep (hobtained.trans hvalue) ⟨hquiet.conversionsOf j', hquiet.taken j'⟩
    · obtain ⟨hconversions, htaken⟩ := Job.take?_consumes h (hhas known) hvalue
      rw [hobtained, hvalue, hafter, hconversions, htaken]
      exact ⟨rfl, (Bool.or_true _).symm⟩
  · have hnone : op.obtained b j = none := by
      rw [consumed_eq] at hj
      rw [obtained]
      rcases htake : op.take? with _ | ⟨j', ctx, mode⟩
      · rfl
      · rw [htake] at hj
        exact if_neg fun heq => hj (congrArg some heq)
    refine hkeep hnone ?_
    cases hop : op.rebooks with
    | true => exact op.keeps_jobs_of_rebooks hop j
    | false =>
      obtain ⟨-, hevolves⟩ := op.tame hop known h
      exact ⟨hevolves.conversions j hj, hevolves.taken j hj⟩

end Operation

/-! ## Along a run -/

/-- A library that does not give the names of jobs. -/
def Library.nameless (σ : Type) : Library σ where
  origin := .inProcess "nameless"
  entry := { EntryPoints.idle σ with
    jobName := fun _ _ _ machine => (⟨.clientError, none⟩, machine) }

namespace Run

variable {native : σ} {env : Environment} {b : Bridge σ}

/-- The converter of a marked job was invoked once, and that of any other job never. -/
theorem length_conversionsOf (run : Run (.start native env) b) (j : Job) :
    (b.conversionsOf j).length = if (b.job j).taken then 1 else 0 := by
  induction run with
  | done => rfl
  | @call b α run op known ih =>
    obtain ⟨hconversions, htaken⟩ := op.consumes known run.ledger.wellFormed j
    rw [hconversions, htaken, List.length_append, ih]
    rcases hvalue : op.obtained b j with _ | value
    · simp
    · rw [op.taken_of_obtained hvalue]
      rfl

/-- **The result of a job is consumed once.**  The converter was invoked as often as the job was
marked, and is invoked when a call marks it: when the result was not taken, the job and its manager
are open, and the native library answers the take with success and, if it is asked, that the result
is ready.  The mark stays.  A take of a marked job is refused, and asks for no more than its
label. -/
theorem consumption (run : Run (.start native env) b) (op : Operation σ α) (known : op.Known b)
    (j : Job) :
    (b.conversionsOf j).length = (if (b.job j).taken then 1 else 0) ∧
    (op.after b).conversionsOf j = b.conversionsOf j ++ (op.obtained b j).toList ∧
    (((b.job j).taken = false ∧ ((op.after b).job j).taken = true) ↔
      (op.obtained b j).isSome = true) ∧
    ((b.job j).taken = true → ((op.after b).job j).taken = true) ∧
    (∀ value, op.obtained b j = some value ↔ ∃ ctx mode, op.take? = some (j, ctx, mode) ∧
      (b.job j).taken = false ∧ b.Live (b.job j).resource ∧ ∃ c, b.passed ctx = some c ∧
        (b.job j).answer c (b.resource (b.job j).resource).handle b.machine mode =
          some (some value)) ∧
    ∀ ctx mode, op.take? = some (j, ctx, mode) → (b.job j).taken = true →
      b.Live (b.job j).resource →
        (op.perform b).1 = .error (.alreadyTaken (b.label j ctx)) ∧
          b.Labels ctx j (op.after b) := by
  obtain ⟨hconversions, htaken⟩ := op.consumes known run.ledger.wellFormed j
  refine ⟨run.length_conversionsOf j, hconversions, ?_, fun hmark => ?_, fun value => ?_,
    fun ctx mode htake hmark hlive => ?_⟩
  · rw [htaken]
    constructor
    · rintro ⟨hmark, hsome⟩
      rwa [hmark, Bool.false_or] at hsome
    · intro hsome
      obtain ⟨value, hvalue⟩ := Option.isSome_iff_exists.1 hsome
      rw [op.taken_of_obtained hvalue, hsome]
      exact ⟨rfl, rfl⟩
  · rw [htaken, hmark, Bool.true_or]
  · exact op.obtained_eq_some
  · obtain ⟨hfails, hlabels⟩ := Job.take?_of_taken hlive hmark ctx mode
    obtain ⟨hafter, hperform, -⟩ := Operation.spec_of_take htake b
    rw [hafter]
    exact ⟨hperform _ hfails, hlabels⟩

/-- A second take, of a job with a known name: nothing is called. -/
theorem consumption_of_second_take :
    ∃ (b : Bridge Unit) (_ : Run (.start () []) b) (op : Operation Unit Yield),
      op.take? = some (⟨0⟩, none, .blocking) ∧ (b.job ⟨0⟩).taken = true ∧
        (b.conversionsOf ⟨0⟩).length = 1 ∧ (op.perform b).1 = .error (.alreadyTaken "") ∧
          (op.after b).calls = b.calls := by
  let run₁ := (Run.done (b := Bridge.start () [])).call (.createManager 16) (by decide)
  let run₂ := run₁.call (.adoptJob default ⟨0⟩ (.ofIndex 7) .void) (by decide)
  let run := run₂.call (.jobTake ⟨0⟩ none) (by decide)
  obtain ⟨hlength, -, -, -, -, hlate⟩ := run.consumption (.jobTake ⟨0⟩ none) (by decide) ⟨0⟩
  obtain ⟨hfails, hknown, -⟩ := hlate none .blocking rfl (by decide) ⟨by decide, by decide⟩
  exact ⟨_, run, .jobTake ⟨0⟩ none, rfl, by decide, hlength, hfails, hknown (by decide)⟩

/-- A refused take does not only ask for the name: a failed lookup reads the context. -/
theorem not_calls_name_only :
    ¬ ∀ (b : Bridge Unit) (_ : Run (.start () []) b) (j : Job) (ctx : Option Context),
      (Operation.jobTake j ctx : Operation Unit Yield).Known b → (b.job j).taken = true →
        b.Live (b.job j).resource →
          ∀ e ∈ ((Operation.jobTake j ctx : Operation Unit Yield).after b).calls.drop
            b.calls.length, e.1 = .jobName := by
  intro h
  let run₁ := (Run.done (b := Bridge.start () [])).call (.createManager 16) (by decide)
  let run₂ := run₁.call (.adoptContext (.nameless Unit) ⟨0⟩ (.ofIndex 6)) (by decide)
  let run₃ := run₂.call (.adoptJob (.nameless Unit) ⟨0⟩ (.ofIndex 7) .void) (by decide)
  let run := run₃.call (.jobTake ⟨0⟩ none) (by decide)
  have hread := h _ run ⟨0⟩ (some ⟨0⟩) (by decide) (by decide) ⟨by decide, by decide⟩
    (.contextErrorName, some (.ofIndex 6)) (by decide)
  exact absurd hread (by decide)

end Run

end HandleBridge
