import HandleBridge.Proofs.Driving

/-!
# Proofs/CancelProtocol — what the cancel requests of one job come to

Three calls request that a job be cancelled, and the native job keeps one instant for all of them:
that of the first request made while the job was not done.  One of the three also gives an object
that tracks the request.  `Cancelling` ties the instant, the requests and the objects together; each
step of a run keeps it.
-/

namespace HandleBridge

open HandleBridge.Action Bridge Simulation

variable {α : Type}

/-! ## Requests and what tracks them -/

/-- Is the native job behind a job done? -/
def Bridge.isDone (b : Bridge Simulation) (j : Job) : Bool :=
  (b.machine.native.job? (some (b.handleOf j))).any (·.isDone b.machine.clock)

theorem Bridge.Stands.isDone_eq {b : Bridge Simulation} {j : Job} {J : Simulation.Job}
    (hs : b.Stands j J) : b.isDone j = J.isDone b.machine.clock := by
  rw [Bridge.isDone, hs.native, Option.any_some]

/-- The object that tracks a cancel request, if a call gives one. -/
def Operation.tracker? (b : Bridge Simulation) :
    {α : Type} → Operation Simulation α → Option Cancellation
  | _, jobCancelAsync j ctx => (j.cancelAsync ctx b).1.toOption.join
  | _, _ => none

namespace Run

/-- The bridges at which a cancel request was made in the course of a run, in order. -/
def requests {b : Bridge Simulation} :
    {b' : Bridge Simulation} → Run b b' → List (Bridge Simulation)
  | _, done => []
  | _, @call _ _ b' _ run op _ => run.requests ++ if op.cancelled?.isSome then [b'] else []

/-- The objects that were given in the course of a run to track cancel requests, in order. -/
def trackers {b : Bridge Simulation} : {b' : Bridge Simulation} → Run b b' → List Cancellation
  | _, done => []
  | _, @call _ _ b' _ run op _ => run.trackers ++ (op.tracker? b').toList

end Run

/-- **The instant at which a job is cancelled, the requests, and the objects that track them.** -/
structure Cancelling (b : Bridge Simulation) (j : Job) (J : Simulation.Job)
    (requests : List (Bridge Simulation)) (trackers : List Cancellation) : Prop where
  cancelAt : J.cancelAt = (requests.find? fun r => !r.isDone j).map
    (·.machine.clock + J.spec.cancelLatency)
  isDone : ∀ r ∈ requests, r.isDone j = true → J.isDone b.machine.clock = true
  trackers : trackers = [] ∨ ∃ c k, trackers = [c] ∧ b.Tracks c k ∧ J.cancelAt = some k.doneAt

/-! ## One step -/

section Step

variable {b : Bridge Simulation} {j : Job} {J : Simulation.Job} {op : Operation Simulation α}

/-- Only the first cancel request of a job that is not done is tracked. -/
theorem Operation.tracker?_of_drives (hs : b.Stands j J) (hop : op.Drives b j) :
    op.tracker? b = none ∨ J.isDone b.machine.clock = false ∧ J.cancelAt = none ∧
      op.cancelled? = some j ∧ ∃ c probe, op.tracker? b = some c ∧
        (op.after b).Tracks c ⟨b.machine.clock + J.spec.cancelLatency, probe⟩ := by
  cases op with
  | jobCancelAsync j' ctx =>
    obtain ⟨rfl, hfit⟩ := hop
    rcases J.cancelUnlessDone_cases b.machine.clock with ⟨hno, -⟩ | ⟨hnot, hnone, -⟩
    · obtain ⟨b', heq, -⟩ := Job.cancelAsync_leaves_none hs hfit hno
      rw [tracker?, heq]
      exact .inl rfl
    · obtain ⟨b', heq, -, -, htracks⟩ := Job.cancelAsync_leaves_some hs hfit hnot hnone
      rw [tracker?, after, perform, heq]
      exact .inr ⟨hnot, hnone, rfl, _, _, rfl, htracks⟩
  | _ => exact .inl rfl

/-- The instant of cancellation is that of the first request made while the job was not done. -/
theorem Cancelling.cancelAt_request {requests : List (Bridge Simulation)}
    {trackers : List Cancellation} (h : Cancelling b j J requests trackers) (hs : b.Stands j J) :
    (J.cancelUnlessDone b.machine.clock).cancelAt = ((requests ++ [b]).find? fun r =>
      !r.isDone j).map (·.machine.clock + J.spec.cancelLatency) := by
  have hlast : [b].find? (fun r => !r.isDone j) =
      if J.isDone b.machine.clock then none else some b := by
    rw [List.find?_singleton, hs.isDone_eq]
    cases J.isDone b.machine.clock <;> rfl
  rw [List.find?_append, hlast]
  rcases J.cancelUnlessDone_cases b.machine.clock with ⟨hdone | hsome, heq⟩ | ⟨hnot, hnone, heq⟩
  · rw [heq, hdone, if_pos rfl, Option.or_none]
    exact h.cancelAt
  · obtain ⟨instant, hinstant⟩ := Option.isSome_iff_exists.1 hsome
    obtain ⟨r, hr, -⟩ := Option.map_eq_some_iff.1 (h.cancelAt.symm.trans hinstant)
    rw [heq, h.cancelAt, hr, Option.some_or]
  · have hfirst := Option.map_eq_none_iff.1 (h.cancelAt.symm.trans hnone)
    rw [heq, hnot, if_neg Bool.false_ne_true, hfirst, Option.none_or]
    rfl

/-- **A step keeps the instant** once there is one, and sets it if it is the first request. -/
theorem Cancelling.step {requests : List (Bridge Simulation)} {trackers : List Cancellation}
    (h : Cancelling b j J requests trackers) (hs : b.Stands j J) (hop : op.Drives b j) :
    ∃ J', (op.after b).Stands j J' ∧ J'.spec = J.spec ∧
      Cancelling (op.after b) j J' (requests ++ if op.cancelled?.isSome then [b] else [])
        (trackers ++ (op.tracker? b).toList) := by
  obtain ⟨J', clock, hle, hleaves, hfollows, hcancel⟩ := Operation.leaves_of_drives hs hop
  refine ⟨J', hleaves.stands, hfollows.spec, ?_, fun r hr hdone => ?_, ?_⟩
  · rw [hcancel, Operation.settled, hfollows.spec]
    cases op.cancelled?.isSome with
    | false =>
      rw [if_neg Bool.false_ne_true, if_neg Bool.false_ne_true, List.append_nil]
      exact h.cancelAt
    | true =>
      rw [if_pos rfl, if_pos rfl]
      exact h.cancelAt_request hs
  · rw [hleaves.clock]
    rcases List.mem_append.1 hr with hr | hr
    · exact hfollows.isDone hle (h.isDone r hr hdone)
    · obtain rfl := List.mem_singleton.1 (List.mem_ite_nil_right.1 hr).2
      exact hfollows.isDone hle (hs.isDone_eq.symm.trans hdone)
  · rcases Operation.tracker?_of_drives hs hop with hno | ⟨hnot, hnone, hop', c, probe, hc, htracks⟩
    -- Nothing new: an object that was given before keeps its instant, which nothing moves.
    · rw [hno, Option.toList_none, List.append_nil]
      rcases h.trackers with hnil | ⟨c, k, hone, hc, hk⟩
      · exact .inl hnil
      · refine .inr ⟨c, k, hone, hleaves.tracks hc, ?_⟩
        rcases hfollows.cancelAt with hsame | ⟨-, hnone, -⟩
        · exact hsame.trans hk
        · exact absurd (hnone.symm.trans hk) (Option.some_ne_none _).symm
    -- A new object: there was no instant before, so there was no object either.
    · rcases h.trackers with hnil | ⟨c', k, -, -, hk⟩
      · refine .inr ⟨c, _, by rw [hnil, hc]; rfl, htracks, ?_⟩
        rw [hcancel, Operation.settled, hop', Option.isSome_some, if_pos rfl]
        rcases J.cancelUnlessDone_cases b.machine.clock with ⟨hno | hno, -⟩ | ⟨-, -, heq⟩
        · exact absurd (hno.symm.trans hnot) (by decide)
        · rw [hnone] at hno
          exact Bool.noConfusion hno
        · rw [heq]
      · exact absurd (hnone.symm.trans hk) (Option.some_ne_none _).symm

end Step

/-! ## What the calls say -/

namespace Bridge

/-- **An object that tracks a cancel request** says whether the instant of cancellation has come.
When it has, the job says that it is done. -/
structure Reports (b : Bridge Simulation) (c : Cancellation) (j : Job) (ctx : Option Context)
    (instant : Nat) : Prop where
  isDone : (c.isDone ctx b).1 = .ok (instant ≤ b.machine.clock)
  wait : ∀ limit, (c.wait ctx limit b).1 = .ok (instant ≤ (c.wait ctx limit b).2.machine.clock)
  jobIsDone : (c.isDone ctx b).1 = .ok true → (j.isDone ctx (c.isDone ctx b).2).1 = .ok true
  jobIsDone_wait : ∀ limit, (c.wait ctx limit b).1 = .ok true →
    (j.isDone ctx (c.wait ctx limit b).2).1 = .ok true

/-- **What cancel requests answer**, after those that were made before. -/
structure Cancels (b : Bridge Simulation) (j : Job) (ctx : Option Context)
    (requests : List (Bridge Simulation)) : Prop where
  cancelAsync : ∃ tracker, (j.cancelAsync ctx b).1 = .ok tracker ∧
    (tracker.isSome = true ↔ (j.isDone ctx b).1 = .ok false ∧ requests = [])
  cancel : (j.cancel ctx b).1 = .ok true
  clock_cancel : ∃ J instant, (j.cancel ctx b).2.Stands j J ∧
    (J.readyAt.toList ++ J.cancelAt.toList).min? = some instant ∧
    (j.cancel ctx b).2.machine.clock = max instant b.machine.clock

variable {b : Bridge Simulation} {j : Job} {J : Simulation.Job} {ctx : Option Context}

theorem Tracks.reports {c : Cancellation} {k : CancelJob} (hc : b.Tracks c k) (hs : b.Stands j J)
    (hfit : b.Fit ctx) (hk : J.cancelAt = some k.doneAt) : b.Reports c j ctx k.doneAt := by
  have hdone {b' : Bridge Simulation} (hquiet : Quiet b b') {clock : Nat}
      (hleaves : b.Leaves j J clock b') (hcome : decide (k.doneAt ≤ clock) = true) :
      (j.isDone ctx b').1 = .ok true := by
    obtain ⟨b'', heq, -⟩ := Job.isDone_leaves hleaves.stands (hquiet.fit hfit)
    rw [heq, J.isDone_eq, hk, hleaves.clock, Simulation.Job.hasCome, hcome, Bool.or_true]
  obtain ⟨b₁, heq₁, hquiet₁, hleaves₁⟩ := Cancellation.isDone_leaves hc hs hfit
  refine ⟨by rw [heq₁], fun limit => ?_, fun htells => ?_, fun limit htells => ?_⟩
  · obtain ⟨b₂, heq₂, -, hleaves₂⟩ := Cancellation.wait_leaves hc hs hfit limit
    rw [heq₂, hleaves₂.clock]
    exact congrArg Except.ok (await_came _ _ _)
  · rw [heq₁] at htells ⊢
    exact hdone hquiet₁ hleaves₁ (Except.ok.inj htells)
  · obtain ⟨b₂, heq₂, hquiet₂, hleaves₂⟩ := Cancellation.wait_leaves hc hs hfit limit
    rw [heq₂] at htells ⊢
    exact hdone hquiet₂ hleaves₂ ((await_came _ _ _).symm.trans (Except.ok.inj htells))

end Bridge

/-- Of a job that is not done, the first request finds that none was made. -/
theorem Cancelling.cancels {b : Bridge Simulation} {j : Job} {J : Simulation.Job}
    {ctx : Option Context} {requests : List (Bridge Simulation)}
    {trackers : List Cancellation} (h : Cancelling b j J requests trackers) (hs : b.Stands j J)
    (hfit : b.Fit ctx) : b.Cancels j ctx requests := by
  obtain ⟨b₁, hisDone, -⟩ := Job.isDone_leaves hs hfit
  obtain ⟨b₂, hcancel, -, hleaves⟩ := Job.cancel_leaves hs hfit
  obtain ⟨instant, hdue⟩ := Option.isSome_iff_exists.1
    (J.isSome_due_cancelUnlessDone b.machine.clock)
  refine ⟨?_, ?_, ?_⟩
  · rw [hisDone]
    rcases J.cancelUnlessDone_cases b.machine.clock with ⟨hno, -⟩ | ⟨hnot, hnone, -⟩
    · obtain ⟨b', heq, -⟩ := Job.cancelAsync_leaves_none hs hfit hno
      refine ⟨none, by rw [heq], fun hsome => Bool.noConfusion hsome, fun ⟨hnot, hnil⟩ => ?_⟩
      rcases hno with hdone | hsome
      · exact absurd (hdone.symm.trans (Except.ok.inj hnot)) (by decide)
      · rw [h.cancelAt, hnil] at hsome
        exact Bool.noConfusion hsome
    · obtain ⟨b', heq, -⟩ := Job.cancelAsync_leaves_some hs hfit hnot hnone
      refine ⟨some _, by rw [heq], fun _ => ⟨congrArg _ hnot, ?_⟩, fun _ => rfl⟩
      refine List.eq_nil_iff_forall_not_mem.2 fun r hr => ?_
      have hfirst := List.find?_eq_none.1
        (Option.map_eq_none_iff.1 (h.cancelAt.symm.trans hnone)) r hr
      exact Bool.eq_false_iff.1 hnot (h.isDone r hr (by simpa using hfirst))
  · rw [hcancel, hdue]
    rfl
  · rw [hcancel]
    refine ⟨_, instant, hleaves.stands, (Simulation.Job.due_eq_min? _).symm.trans hdue, ?_⟩
    rw [hleaves.clock, hdue]
    rfl

/-- A cancel request leaves a job that is done as it is. -/
theorem Operation.stands_of_cancelled {b : Bridge Simulation} {j : Job} {J : Simulation.Job}
    {op : Operation Simulation α} (hs : b.Stands j J) (hop : op.Drives b j)
    (hcancel : op.cancelled? = some j) (hdone : J.isDone b.machine.clock = true) :
    (op.after b).Stands j J ∧ ((op.after b).job j).taken = (b.job j).taken := by
  have htake : op.take? = none := by
    rcases htake : op.take? with _ | ⟨j', ctx, mode⟩
    · rfl
    · exact absurd (hcancel.symm.trans (cancelled_of_take htake)) (Option.some_ne_none j)
  obtain ⟨clock, -, hleaves, htaken⟩ := leaves_of_not_take hs hop htake
  have hsame : op.settled J b.machine.clock = J := by
    rw [settled, hcancel, Option.isSome_some, if_pos rfl, Simulation.Job.cancelUnlessDone,
      if_pos hdone]
  rw [hsame] at hleaves
  exact ⟨hleaves.stands, htaken⟩

/-! ## Along a run -/

namespace Run

variable {b b' : Bridge Simulation} {j : Job} {J : Simulation.Job}

theorem cancelling (run : Run b b') (hrun : run.Drives j) (hs : b.Stands j J)
    (hfresh : J.cancelAt = none) :
    ∃ J', b'.Stands j J' ∧ J'.spec = J.spec ∧ Cancelling b' j J' run.requests run.trackers := by
  induction run with
  | done => exact ⟨J, hs, rfl, hfresh, List.forall_mem_nil _, .inl rfl⟩
  | call run op known ih =>
    obtain ⟨J', hs', hspec, hcancelling⟩ := ih hrun.1
    obtain ⟨J'', hs'', hspec', hcancelling'⟩ := hcancelling.step hs' hrun.2
    exact ⟨J'', hs'', hspec'.trans hspec, hcancelling'⟩

/-- **One instant for all cancel requests of a job**: that of the first request made while the job
was not done, and the time that a request takes.  Only a request that is the first one, of a job
that is not done, is tracked, so there is one object at most that tracks it; it says that the
request has taken effect from that instant on, and the job is done then.  To cancel and wait
succeeds, at the instant at which the job is ready or cancelled, whichever comes first.  A job that
is done stays as it is. -/
theorem cancel_protocol (run : Run b b') (hrun : run.Drives j) (hs : b.Stands j J)
    (hfresh : J.cancelAt = none) :
    ∃ J', b'.Stands j J' ∧
      J'.cancelAt = (run.requests.find? fun r => !r.isDone j).map
        (·.machine.clock + J.spec.cancelLatency) ∧
      run.trackers.length ≤ 1 ∧
      (∀ ctx, b'.Fit ctx → b'.Cancels j ctx run.requests ∧
        ∀ c ∈ run.trackers, ∃ instant, J'.cancelAt = some instant ∧ b'.Reports c j ctx instant) ∧
      ∀ {β : Type} (op : Operation Simulation β), op.Drives b' j → op.cancelled? = some j →
        J'.isDone b'.machine.clock = true →
          (op.after b').Stands j J' ∧ ((op.after b').job j).taken = (b'.job j).taken := by
  obtain ⟨J', hs', hspec, hcancelling⟩ := run.cancelling hrun hs hfresh
  refine ⟨J', hs', ?_, ?_, fun ctx hfit => ⟨hcancelling.cancels hs' hfit, fun c hc => ?_⟩,
    fun op hop hcancel hdone => op.stands_of_cancelled hs' hop hcancel hdone⟩
  · rw [← hspec]
    exact hcancelling.cancelAt
  · rcases hcancelling.trackers with hnil | ⟨c, k, hone, -⟩
    · rw [hnil]
      exact Nat.zero_le 1
    · rw [hone]
      exact Nat.le_refl 1
  · rcases hcancelling.trackers with hnil | ⟨c', k, hone, htracks, hk⟩
    · rw [hnil] at hc
      exact absurd hc List.not_mem_nil
    · rw [hone] at hc
      obtain rfl := List.mem_singleton.1 hc
      exact ⟨_, hk, htracks.reports hs' hfit hk⟩

/-- A job that would never complete, three units after a cancel request that takes five. -/
theorem cancel_protocol_of_request :
    ∃ (b' : Bridge Simulation) (run : Run (.ofJob ⟨"", none, .void, 5, none, none, none⟩ .void) b'),
      run.Drives ⟨0⟩ ∧ run.trackers = [⟨0⟩] ∧ b'.Cancels ⟨0⟩ none run.requests ∧
        b'.Reports ⟨0⟩ ⟨0⟩ none 5 := by
  let run₁ := (Run.done (b := .ofJob ⟨"", none, .void, 5, none, none, none⟩ .void)).call
    (.jobCancelAsync ⟨0⟩ none) (by decide)
  let run := run₁.call (.outside fun m => { m with clock := m.clock + 3 }) (by decide)
  have hrun : run.Drives ⟨0⟩ := ⟨⟨trivial, rfl, fit_none _⟩, .advance _ 3⟩
  have htrackers : run.trackers = [⟨0⟩] := rfl
  obtain ⟨hs, -⟩ := Bridge.ofJob_stands ⟨"", none, .void, 5, none, none, none⟩ .void
  obtain ⟨J, -, hcancel, -, hcalls, -⟩ := run.cancel_protocol hrun hs rfl
  obtain ⟨hcancels, htells⟩ := hcalls none (fit_none _)
  obtain ⟨instant, hinstant, hreports⟩ := htells ⟨0⟩ (by rw [htrackers]; exact .head _)
  have hfive : J.cancelAt = some 5 := hcancel
  obtain rfl := Option.some.inj (hfive.symm.trans hinstant)
  exact ⟨_, run, hrun, htrackers, hcancels, hreports⟩

end Run

end HandleBridge
