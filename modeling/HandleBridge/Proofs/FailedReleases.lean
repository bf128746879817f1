import HandleBridge.Proofs.ExactlyOnce
import HandleBridge.Proofs.Statuses
import HandleBridge.Proofs.Surfacing

/-!
# Proofs/FailedReleases — no release fails in silence

Every call either hands the releases that failed to its caller or warns of them, and tells of no
others (`Operation.Shows`).  A resource is released once, so a failure that was told of is not told
of again (`Run.failures_surface`).
-/

namespace HandleBridge

open HandleBridge.Action Bridge

variable {σ α : Type}

/-- The failure of a call, unless the call was refused by a closed manager. -/
def Failure.unrefused : Except Failure α → List Failure
  | .error .managerClosed => []
  | .error e => [e]
  | .ok _ => []

theorem Failure.unrefused_of_failsAs {x : Action σ α} (h : x.FailsAs (.managerClosed = ·))
    (b : Bridge σ) : unrefused (x b).1 = [] := by
  cases hx : (x b).1 with
  | ok a => rfl
  | error e => rw [← h b e hx, unrefused]

/-! ## Operations -/

namespace Operation

/-- Does a call hand releases that failed to its caller? -/
def hands : {α : Type} → Operation σ α → Bool
  | _, closeManager _ => true
  | _, close _ _ => true
  | _, _ => false

/-- Does a call warn of releases that failed? -/
def warns : {α : Type} → Operation σ α → Bool
  | _, close (.manager _) _ => true
  | _, close _ _ => false
  | _, _ => true

/-- Does a call warn of the releases that failed once more, of all together? -/
def sums : {α : Type} → Operation σ α → Bool
  | _, drop (.manager _) => true
  | _, _ => false

/-- The failed releases that the caller finds in the result of a call.  An adoption may be refused,
and the library may fail to close a job: neither is the failure of a release. -/
def returned : {α : Type} → Operation σ α → Except Failure α → List Failure
  | _, closeManager _, result => Failure.members result
  | _, close (.manager _) _, result => Failure.members result
  | _, close (.job _) _, _ => []
  | _, close _ _, .error e => [e]
  | _, drop _, .error e => [e]
  | _, adopt _ _ _ _ _, result => Failure.unrefused result
  | _, adoptContext _ _ _, result => Failure.unrefused result
  | _, adoptJob _ _ _ _, result => Failure.unrefused result
  | _, _, _ => []

/-- **Where failed releases show**: in the result of a call that hands them to its caller, and in
the warnings of one that warns. -/
structure Shows (op : Operation σ α) (b : Bridge σ) (failing : List (Resource × Failure)) :
    Prop where
  surfaces : Surfaces failing (if op.warns then (op.after b).told failing else [])
    (if op.sums then (Failure.aggregate (failing.map Prod.snd)).toList else []) b (op.after b)
  returned : op.returned (op.perform b).1 = if op.hands then failing.map Prod.snd else []

theorem shows_of_warned {op : Operation σ α} {b : Bridge σ} (h : Warned b (op.after b))
    (hreturned : op.returned (op.perform b).1 = [])
    (hsorts : op.hands = false ∧ op.warns = true ∧ op.sums = false) :
    ∃ failing, op.Shows b failing := by
  obtain ⟨failing, hwarns⟩ := h
  obtain ⟨hhands, hwarned, hsums⟩ := hsorts
  refine ⟨failing, ?_, ?_⟩
  · rw [hwarned, hsums]
    exact hwarns
  · rw [hreturned, hhands]
    rfl

/-- Who only asks is told of no release. -/
theorem sorts_of_asks {op : Operation σ α} (h : op.asks = true) (result : Except Failure α) :
    op.returned result = [] ∧ op.hands = false ∧ op.warns = true ∧ op.sums = false := by
  cases op <;> first | exact ⟨rfl, rfl, rfl, rfl⟩ | exact Bool.noConfusion h

/-- A manager is closed with its failures returned, together. -/
theorem shows_of_manager {op : Operation σ α} {m : Manager} {b : Bridge σ} {f : Teardown → α}
    (hperform : op.perform b = ((m.close b).1.map f, (m.close b).2))
    (hreturned : op.returned = Failure.members)
    (hsorts : op.hands = true ∧ op.warns = true ∧ op.sums = false) :
    ∃ failing, op.Shows b failing := by
  obtain ⟨failing, outcome, b', hwarns, heq⟩ := m.close_warns b
  have hrun : op.perform b = (Failure.verdict (failing.map Prod.snd) (f outcome), b') := by
    rw [hperform, heq, Failure.verdict, Failure.verdict]
    cases Failure.aggregate (failing.map Prod.snd) <;> rfl
  obtain ⟨hhands, hwarned, hsums⟩ := hsorts
  refine ⟨failing, ?_, ?_⟩
  · rw [after, hrun, hwarned, hsums]
    exact hwarns
  · rw [hreturned, hrun, Failure.members_verdict, hhands]
    rfl

/-- A resource is closed with its failure returned. -/
theorem shows_of_resource {op : Operation σ Unit} {r : Resource} {b : Bridge σ}
    (hperform : op.perform b = r.close b)
    (hreturned : ∀ result, op.returned result = (r.failed result).map Prod.snd)
    (hsorts : op.hands = true ∧ op.warns = false ∧ op.sums = false) :
    ∃ failing, op.Shows b failing := by
  obtain ⟨hhands, hwarned, hsums⟩ := hsorts
  refine ⟨r.failed (r.close b).1, ?_, ?_⟩
  · rw [after, hperform, hwarned, hsums]
    exact r.close_surfaces b
  · rw [hreturned, hperform, hhands]
    rfl

theorem closeObject_shows (o : Object) (ctx : Option Context) {b : Bridge σ}
    (hjob : ∀ j, o = .job j → (b.resource (b.job j).resource).releaser.failure = none) :
    ∃ failing, (close o ctx : Operation σ Unit).Shows b failing := by
  cases o with
  | manager m => exact shows_of_manager (map_apply m.close _ b) rfl ⟨rfl, rfl, rfl⟩
  | resource r =>
    refine shows_of_resource (r := r) rfl (fun result => ?_) ⟨rfl, rfl, rfl⟩
    cases result <;> rfl
  | context c =>
    refine shows_of_resource (r := (b.context c).resource) rfl (fun result => ?_) ⟨rfl, rfl, rfl⟩
    cases result <;> rfl
  | job j =>
    obtain ⟨failing, hsurfaces, hnone⟩ := j.close_surfaces ctx b
    obtain rfl := hnone (hjob j rfl)
    exact ⟨[], hsurfaces, rfl⟩
  | cancellation c =>
    refine shows_of_resource (r := (b.cancellation c).resource) rfl (fun result => ?_)
      ⟨rfl, rfl, rfl⟩
    cases result <;> rfl

theorem dropObject_shows (o : Object) (b : Bridge σ) :
    ∃ failing, (drop o : Operation σ Unit).Shows b failing := by
  have hreturned {x : Action σ Unit} (hx : x.Total) :
      (drop o : Operation σ Unit).returned (x b).1 = [] := by
    obtain ⟨_, hok⟩ := hx b
    rw [hok]
    rfl
  have hwrapped {r : Resource} (hr : dropObject o b = r.drop b)
      (hsums : (drop o : Operation σ Unit).sums = false) :
      ∃ failing, (drop o : Operation σ Unit).Shows b failing := by
    refine shows_of_warned ?_ ?_ ⟨rfl, rfl, hsums⟩
    · rw [after, perform, hr]
      exact r.drop_warned b
    · rw [perform, hr]
      exact hreturned r.drop_total
  cases o with
  | manager m =>
    obtain ⟨failing, hsurfaces⟩ := m.drop_surfaces b
    exact ⟨failing, hsurfaces, hreturned m.drop_total⟩
  | resource r => exact hwrapped (r := r) rfl rfl
  | context c => exact hwrapped (r := (b.context c).resource) rfl rfl
  | job j => exact hwrapped (r := (b.job j).resource) rfl rfl
  | cancellation c => exact hwrapped (r := (b.cancellation c).resource) rfl rfl

theorem shows_any (op : Operation σ α) {b : Bridge σ} (known : op.Known b)
    (hserved : b.Served .any) : ∃ failing, op.Shows b failing := by
  have hrefused {β : Type} (m : Manager) (h : Handle) (kind : Kind) (releaser : Releaser σ)
      {f : Resource → Action σ β} (hf : ∀ r, (f r).Total) :
      (Resource.adopt m h kind releaser >>= f).FailsAs (.managerClosed = ·) :=
    .bind (.adopt rfl m h kind releaser) fun r => .of_total (hf r)
  cases hasks : op.asks with
  | true =>
    obtain ⟨hreturned, hsorts⟩ := sorts_of_asks hasks (op.perform b).1
    exact shows_of_warned ⟨[], Calm.asking.operation op hasks b⟩ hreturned hsorts
  | false =>
    cases op with
    | createManager capacity =>
      exact shows_of_warned ⟨[], Manager.create_calm capacity b⟩ rfl ⟨rfl, rfl, rfl⟩
    | closeManager m =>
      refine shows_of_manager (m := m) (f := id) ?_ rfl ⟨rfl, rfl, rfl⟩
      rw [Except.map_id]
      rfl
    | register m r => exact shows_of_warned ⟨[], m.register_calm r b⟩ rfl ⟨rfl, rfl, rfl⟩
    | deregister m r => exact shows_of_warned ⟨[], m.deregister_calm r b⟩ rfl ⟨rfl, rfl, rfl⟩
    | adopt m h kind pause failure =>
      exact shows_of_warned (Resource.adopt_warned m h _ _ b)
        (Failure.unrefused_of_failsAs (.adopt rfl m h _ _) b) ⟨rfl, rfl, rfl⟩
    | createContext library m =>
      exact shows_of_warned (Context.create_warned library m b) rfl ⟨rfl, rfl, rfl⟩
    | adoptContext library m h =>
      refine shows_of_warned (Context.adopt_warned library m h b)
        (Failure.unrefused_of_failsAs (hrefused m h _ _ fun r => ?_) b) ⟨rfl, rfl, rfl⟩
      exact .bind (.read _) fun _ => .bind (.update _) fun _ => .pure _
    | adoptJob library m h converter =>
      refine shows_of_warned (Job.adopt_warned library m h converter b)
        (Failure.unrefused_of_failsAs (hrefused m h _ _ fun r => ?_) b) ⟨rfl, rfl, rfl⟩
      exact .bind (.read _) fun _ => .bind (.update _) fun _ => .pure _
    | jobTake j ctx =>
      exact shows_of_warned (j.takeExpecting_warned ctx .jobTake _ b) rfl ⟨rfl, rfl, rfl⟩
    | jobTakeFor j ctx limit =>
      exact shows_of_warned (j.takeExpecting_warned ctx .jobTakeFor _ b) rfl ⟨rfl, rfl, rfl⟩
    | jobTakeIfReady j ctx => exact shows_of_warned (j.take?_warned ctx _ b) rfl ⟨rfl, rfl, rfl⟩
    | jobCancelAsync j ctx => exact shows_of_warned (j.cancelAsync_warned ctx b) rfl ⟨rfl, rfl, rfl⟩
    | close o ctx =>
      refine closeObject_shows o ctx fun j hj => ?_
      have hreleaser : (b.resource (b.job j).resource).releaser = Job.releaser (b.job j).library :=
        (hserved (.job j) (known (.job j) (hj ▸ .head _))).2.2.2
      rw [hreleaser]
      rfl
    | drop o => exact dropObject_shows o b
    | _ => exact Bool.noConfusion hasks

end Operation

/-! ## Along a run -/

namespace Bridge

variable {b : Bridge σ}

theorem failures_sublist (b : Bridge σ) :
    (b.failures.map Prod.fst).Sublist (b.releases.map Prod.fst) := by
  rw [failures]
  induction b.releases with
  | nil => exact .slnil
  | cons release rest ih =>
    obtain ⟨r, h, _ | e⟩ := release
    · exact ih.cons r
    · exact ih.cons_cons r

/-- A release that failed is not tried again. -/
theorem WellFormed.nodup_failures (h : b.WellFormed) : (b.failures.map Prod.fst).Nodup := by
  refine List.Nodup.sublist b.failures_sublist (List.nodup_iff_count.2 fun r => ?_)
  have hcount : (b.releases.map Prod.fst).count r = (b.releasesOf r).length := by
    rw [releasesOf, List.length_map, List.count, List.countP_map, List.countP_eq_length_filter]
    rfl
  rw [hcount]
  by_cases hr : b.Has (.resource r)
  · rw [h.released r hr, due]
    split <;> simp
  · rw [h.unborn r hr]
    exact Nat.zero_le 1

end Bridge

namespace Run

/-- What fails in the course of a run is noted in order. -/
theorem surfaces {b b' : Bridge σ} (run : Run b b') (h : b.Served .any) :
    ∃ failing warned summed, Surfaces failing warned summed b b' := by
  induction run with
  | done => exact ⟨[], [], [], Std.Refl.refl (r := Calm) b⟩
  | call run op known ih =>
    obtain ⟨failing, warned, summed, hrun⟩ := ih
    obtain ⟨failing', hshows⟩ := op.shows_any known (run.walk_any h).2
    exact ⟨_, _, _, hrun.trans hshows.surfaces⟩

variable {native : σ} {env : Environment} {b b'' : Bridge σ}

/-- The journal notes the failed releases, and no others. -/
theorem failed_iff (run : Run (.start native env) b) (f : Resource × Failure) :
    b.Failed f ↔ f ∈ b.failures := by
  obtain ⟨failing, _, _, hrun⟩ := run.surfaces (.start .any native env)
  have hstart : ¬ (Bridge.start native env).Failed f := fun h => Nat.not_lt_zero _ h.1
  rw [hrun.failed, hrun.failures, or_iff_right hstart]
  rfl

/-- **No release fails in silence, and none that did not fail is told of.**  What fails in a call is
the release of each resource that it closes and cannot release.  The caller who closes a resource or
a manager is returned these failures; any other call warns of them, as the teardown of a manager
does as well.  From then on the resources are closed and in no registry, and no later call fails to
release them. -/
theorem failures_surface (run : Run (.start native env) b) (op : Operation σ α)
    (known : op.Known b) (continuation : Run (op.after b) b'') :
    let b' := op.after b
    ∃ failing later,
      (∀ f, f ∈ failing ↔ b'.Failed f ∧ ¬ b.Failed f) ∧
      b'.failures = b.failures ++ failing ∧
      (op.hands = true ∨ op.warns = true) ∧
      op.returned (op.perform b).1 = (if op.hands then failing.map Prod.snd else []) ∧
      b'.warnings = b.warnings ++ (if op.warns then b'.told failing else []) ∧
      b'.summaries = b.summaries ++
        (if op.sums then (Failure.aggregate (failing.map Prod.snd)).toList else []) ∧
      (∀ f ∈ failing, b''.Failed f ∧ ∀ m : Manager, m.contains b'' f.1 = false) ∧
      b''.failures = b'.failures ++ later ∧
      (b''.failures.map Prod.fst).Nodup := by
  intro b'
  obtain ⟨hwellFormed', -⟩ := op.wellFormed known run.ledger.wellFormed
  obtain ⟨hwellFormed, hendures⟩ := continuation.wellFormed hwellFormed'
  obtain ⟨failing, hsurfaces, hreturned⟩ :=
    op.shows_any known (run.walk_any (.start .any native env)).2
  obtain ⟨later, _, _, hlater⟩ :=
    continuation.surfaces ((run.call op known).walk_any (.start .any native env)).2
  -- What failed before is noted before, and nothing is noted twice.
  have hnew {f : Resource × Failure} (hf : f ∈ failing) : ¬ b.Failed f := by
    intro hold
    have hnodup := hwellFormed'.nodup_failures
    rw [hsurfaces.failures, List.map_append] at hnodup
    exact (List.nodup_append.1 hnodup).2.2 _ (List.mem_map_of_mem ((run.failed_iff f).1 hold)) _
      (List.mem_map_of_mem hf) rfl
  refine ⟨failing, later, fun f => ⟨fun hf => ⟨hsurfaces.failed_of_mem hf, hnew hf⟩, fun hf =>
    ((hsurfaces.failed f).1 hf.1).resolve_left hf.2⟩, hsurfaces.failures, ?_, hreturned,
    hsurfaces.warnings, hsurfaces.summaries, fun f hf => ?_, hlater.failures,
    hwellFormed.nodup_failures⟩
  · cases op with
    | closeManager m => exact .inl rfl
    | close o ctx => exact .inl rfl
    | _ => exact .inr rfl
  · have hfailed := (hsurfaces.failed_of_mem hf).endures hendures
    exact ⟨hfailed, hwellFormed.not_contains hfailed.2.1⟩

/-- Two releases fail in one teardown, and the wrapper of one of the two goes afterwards. -/
theorem failures_surface_of_teardown :
    ∃ (b b'' : Bridge Unit) (_ : Run (.start () []) b)
      (_ : Run ((Operation.closeManager ⟨0⟩).after b) b''),
      let op : Operation Unit Teardown := .closeManager ⟨0⟩
      op.Known b ∧ (op.after b).failures = [(⟨1⟩, .argument "stuck"), (⟨0⟩, .managerClosed)] ∧
      op.returned (op.perform b).1 = [.argument "stuck", .managerClosed] ∧
      b''.failures.length = 2 ∧ b''.Failed (⟨0⟩, .managerClosed) := by
  let run₁ := (Run.done (b := Bridge.start () [])).call (.createManager 16) (by decide)
  let run₂ := run₁.call (.adopt ⟨0⟩ (.ofIndex 7) .value 0 (some .managerClosed)) (by decide)
  let run := run₂.call (.adopt ⟨0⟩ (.ofIndex 8) .value 0 (some (.argument "stuck"))) (by decide)
  let continuation : Run _ _ := .call (.done (b := (Operation.closeManager ⟨0⟩).after
    ((Operation.adopt ⟨0⟩ (.ofIndex 8) .value 0 (some (.argument "stuck"))).after
      ((Operation.adopt ⟨0⟩ (.ofIndex 7) .value 0 (some .managerClosed)).after
        ((Operation.createManager 16).after (.start () [])))))) (.drop (.resource ⟨0⟩)) (by decide)
  obtain ⟨failing, later, -, hfailing, -, hreturned, -, -, hfailed, -⟩ :=
    run.failures_surface (.closeManager ⟨0⟩) (by decide) continuation
  have hboth : failing = [(⟨1⟩, .argument "stuck"), (⟨0⟩, .managerClosed)] :=
    hfailing.symm.trans (by rfl)
  subst hboth
  exact ⟨_, _, run, continuation, by decide, hfailing, hreturned, by decide,
    (hfailed _ (.tail _ (.head _))).1⟩

end Run

end HandleBridge
