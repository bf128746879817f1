import HandleBridge.Proofs.SimulatedCalls

/-!
# Proofs/Slots — what a call of the simulated library leaves with the context that it is given

An entry point that takes a context never looks at what contexts hold.  It answers and changes the
machine as it would without one, and in the end leaves with its context what tells of the answer:
nothing after a success, a report after a failure.  `Simulation.Reports` says so of a call, with one
lemma for each way in which the entry points are put together.
-/

namespace HandleBridge

variable {α β : Type}

namespace Machine

/-- The machine with other contexts. -/
def withContexts (m : Machine Simulation) (contexts : List Simulation.Context) :
    Machine Simulation :=
  { m with native := { m.native with contexts } }

/-- The machine after the latest call left a report, or none, with its context. -/
def filed (m : Machine Simulation) (c : Option Handle) (latest : Option Simulation.Report) :
    Machine Simulation :=
  { m with native := m.native.report c latest }

end Machine

namespace Simulation

/-! ## Reports that tell of an answer -/

/-- **Does what a context holds tell of a status?**  Only the server says anything about a failure,
and what it said is known. -/
inductive Tells (said : String → ServerDetail → Prop) : Status → Option Report → Prop where
  | success : Tells said .ok none
  | locally {r : Report} (failed : r.status.isOk = false) (origin : r.status.origin ≠ .server)
      (server : r.server = none) : Tells said r.status (some r)
  | server {message : String} {detail : ServerDetail} (h : said message detail) :
      Tells said .serverError (some ⟨.serverError, message, some detail⟩)

/-- What a job is configured to fail with. -/
def Job.Says (j : Job) (message : String) (detail : ServerDetail) : Prop :=
  j.spec.outcome = .serverError message detail

/-- What the job behind a handle is configured to fail with. -/
def Says (s : Simulation) (target : Option Handle) (message : String) (detail : ServerDetail) :
    Prop := ∃ j, s.job? target = some j ∧ j.Says message detail

variable {said : String → ServerDetail → Prop}

namespace Tells

variable {status : Status} {latest : Option Report}

theorem mono {said' : String → ServerDetail → Prop} (h : Tells said status latest)
    (hsaid : ∀ message detail, said message detail → said' message detail) :
    Tells said' status latest := by
  cases h with
  | success => exact .success
  | locally failed origin server => exact .locally failed origin server
  | server h => exact .server (hsaid _ _ h)

theorem of_ok (h : Tells said status latest) (ok : status.isOk = true) : latest = none := by
  cases h with
  | success => rfl
  | locally failed => exact absurd (ok.symm.trans failed) (by decide)
  | server => exact absurd ok (by decide)

theorem of_failed (h : Tells said status latest) (failed : status.isOk = false) :
    ∃ r, latest = some r ∧ r.status = status := by
  cases h with
  | success => exact absurd failed (by decide)
  | @locally r => exact ⟨r, rfl, rfl⟩
  | server => exact ⟨_, rfl, rfl⟩

end Tells

/-! ## Calls that report -/

/-- **A call that looks at no context**, loses no job, and leaves with its own context what tells of
the answer. -/
def Reports (said : String → ServerDetail → Prop) (m : Machine Simulation)
    (call : Option Handle → Call Simulation α) : Prop :=
  ∃ (a : Answer α) (m' : Machine Simulation) (latest : Option Report),
    Tells said a.status latest ∧ m'.native.jobs.length = m.native.jobs.length ∧ ∀ c contexts,
      call c (m.withContexts contexts) = (a, (m'.withContexts contexts).filed c latest)

/-- A call that looks at no context whatever the machine. -/
def Blind (call : Option Handle → Call Simulation α) : Prop := ∀ m, ∃ said, Reports said m call

namespace Reports

variable {m : Machine Simulation}

theorem mono {said' : String → ServerDetail → Prop} {call : Option Handle → Call Simulation α}
    (h : Reports said m call)
    (hsaid : ∀ message detail, said message detail → said' message detail) :
    Reports said' m call := by
  obtain ⟨a, m', latest, htells, hjobs, heq⟩ := h
  exact ⟨a, m', latest, htells.mono hsaid, hjobs, heq⟩

/-- It is enough to know a call at the machines that differ in their contexts. -/
theorem congr {call call' : Option Handle → Call Simulation α} (h : Reports said m call)
    (heq : ∀ c contexts, call' c (m.withContexts contexts) = call c (m.withContexts contexts)) :
    Reports said m call' := by
  obtain ⟨a, m', latest, htells, hjobs, hcall⟩ := h
  exact ⟨a, m', latest, htells, hjobs,
    fun c contexts => (heq c contexts).trans (hcall c contexts)⟩

/-- A call after a change that no context shows in. -/
theorem after (f : Machine Simulation → Machine Simulation)
    {call : Option Handle → Call Simulation α} (h : Reports said (f m) call)
    (hjobs : (f m).native.jobs.length = m.native.jobs.length)
    (hf : ∀ contexts, f (m.withContexts contexts) = (f m).withContexts contexts) :
    Reports said m fun c m => call c (f m) := by
  obtain ⟨a, m', latest, htells, hjobs', heq⟩ := h
  exact ⟨a, m', latest, htells, hjobs'.trans hjobs,
    fun c contexts => (congrArg (call c) (hf contexts)).trans (heq c _)⟩

/-- The same call with what it writes in another form. -/
theorem map {call : Option Handle → Call Simulation α} (h : Reports said m call) (f : α → β) :
    Reports said m fun c m => (call c m).map (Answer.map f) id := by
  obtain ⟨a, m', latest, htells, hjobs, heq⟩ := h
  exact ⟨a.map f, m', latest, htells, hjobs, fun c contexts =>
    congrArg (Prod.map (Answer.map f) id) (heq c contexts)⟩

theorem accept (written : α) : Reports said m fun c => accept c written :=
  ⟨⟨.ok, written⟩, m, none, .success, rfl, fun _ _ => rfl⟩

theorem refuse {status : Status} (failed : status.isOk = false) (origin : status.origin ≠ .server)
    (message : String) (written : α) :
    Reports said m fun c => refuse c (localReport status message) written :=
  let r := localReport status message
  ⟨⟨r.status, written⟩, m, some r, .locally (r := r) failed origin rfl, rfl, fun _ _ => rfl⟩

/-- A call that must be able to write. -/
theorem needing (out : Bool) {position : Nat} (hposition : position = 2 ∨ position = 3)
    (nothing : α) {f : Option Handle → Call Simulation α} (h : Reports said m f) :
    Reports said m fun c => needing out position c nothing (f c) := by
  cases out with
  | true => exact h
  | false => rcases hposition with rfl | rfl <;> exact refuse (by decide) (by decide) _ nothing

/-- A call that waits first. -/
theorem waiting (due limit : Option Nat) {f : Option Handle → Bool → Call Simulation α}
    (h : ∀ came clock, Reports said { m with clock } fun c => f c came) :
    Reports said m fun c => waiting due limit (f c) :=
  after (fun m => { m with clock := (await due limit m.clock).2 })
    (h (await due limit m.clock).1 _) rfl fun _ => rfl

/-! ### Calls on jobs -/

section Jobs

variable {target : Option Handle}

/-- A call on the job behind a handle. -/
theorem onJob (nothing : α) {f : Option Handle → Handle → Job → Call Simulation α}
    (h : ∀ h j, Reports j.Says m fun c => f c h j) :
    Reports (m.native.Says target) m fun c => onJob c target nothing (f c) := by
  have hnull : Reports (m.native.Says target) m fun c =>
      Simulation.refuse c (localReport (.argError 1) "job is null") nothing :=
    refuse (by decide) (by decide) _ nothing
  rcases target with _ | handle
  · exact hnull
  · rcases hjob : m.native.job? (some handle) with _ | j
    · refine hnull.congr fun c contexts => ?_
      have hjob' : (m.withContexts contexts).native.job? (some handle) = none := hjob
      unfold Simulation.onJob
      rw [hjob']
    · refine ((h handle j).mono fun _ _ hsays => ⟨j, hjob, hsays⟩).congr fun c contexts => ?_
      exact onJob_apply (m := m.withContexts contexts) hjob c nothing (f c)

/-- A call on a job that must not be closed. -/
theorem onOpenJob (symbol : Symbol) {position : Nat} (hposition : position = 2 ∨ position = 3)
    (out : Bool) (nothing : α) {f : Option Handle → Handle → Job → Call Simulation α}
    (h : ∀ h j, Reports j.Says m fun c => f c h j) :
    Reports (m.native.Says target) m fun c =>
      onOpenJob symbol position c target out nothing (f c) := by
  refine onJob nothing fun handle j => needing out hposition nothing ?_
  cases j.closed with
  | true => exact refuse (by decide) (by decide) _ nothing
  | false => exact h handle j

/-- What comes to the completion of a job. -/
theorem consume (h : Handle) (j : Job) : Reports j.Says m fun c => consume c h j := by
  let set (m : Machine Simulation) : Machine Simulation :=
    { m with native := m.native.setJob h { j with taken := true } }
  have hset : (set m).native.jobs.length = m.native.jobs.length := List.length_set
  unfold Simulation.consume
  split
  · exact refuse (by decide) (by decide) _ none
  dsimp only
  split
  · exact after set (refuse (by decide) (by decide) _ none) hset fun _ => rfl
  cases houtcome : j.spec.outcome with
  | value payload =>
    let made (m : Machine Simulation) := (set m).native.newValue ⟨payload, j.spec.valueProbe⟩
    exact after (fun m => { m with native := (made m).2 }) (accept (some (made m).1)) hset
      fun _ => rfl
  | void => exact after set (accept none) hset fun _ => rfl
  | serverError message detail =>
    exact ⟨⟨.serverError, none⟩, set m, _, .server houtcome, hset, fun _ _ => rfl⟩

/-- What requests that a job be cancelled and waits for it. -/
theorem cancelling (limit : Option Nat) (h : Handle) (j : Job) :
    Reports said m fun c => cancelling c limit h j :=
  let j' := j.cancelUnlessDone m.clock
  after (fun m => { m with native := m.native.setJob h j' })
    (waiting j'.due limit fun came _ => accept (some came)) List.length_set fun _ => rfl

variable (target : Option Handle)

theorem jobName (out : Bool) : Reports (m.native.Says target) m fun c => jobName c target out :=
  onJob none fun _ j => needing out (.inl rfl) none (accept (some (spelled j.spec.name)))

theorem jobWait (limit : Nat) (out : Bool) :
    Reports (m.native.Says target) m fun c => jobWait c target limit out :=
  onOpenJob _ (.inr rfl) out none fun _ j =>
    waiting j.due (some limit) fun came _ => accept (some came)

theorem jobIsDone (out : Bool) : Reports (m.native.Says target) m fun c => jobIsDone c target out :=
  onOpenJob _ (.inl rfl) out none fun _ j =>
    (accept (some (j.isDone m.clock))).congr fun _ _ => rfl

theorem jobTake (out : Bool) : Reports (m.native.Says target) m fun c => jobTake c target out := by
  refine onOpenJob _ (.inl rfl) out none fun h j => ?_
  rcases j.due with _ | instant
  · exact refuse (by decide) (by decide) _ none
  · exact waiting (some instant) none fun _ _ => consume h j

theorem jobTakeFor (limit : Nat) (out : Bool) :
    Reports (m.native.Says target) m fun c => jobTakeFor c target limit out := by
  refine onOpenJob _ (.inr rfl) out none fun h j => waiting j.due (some limit) fun came _ => ?_
  cases came with
  | true => exact consume h j
  | false => exact refuse (by decide) (by decide) _ none

theorem jobTakeIfReady (readyOut valueOut : Bool) :
    Reports (m.native.Says target) m fun c => jobTakeIfReady c target readyOut valueOut := by
  refine onJob (none, none) fun h j => needing readyOut (.inl rfl) _ <|
    needing valueOut (.inr rfl) _ ?_
  split
  · exact refuse (by decide) (by decide) _ (some false, none)
  · cases hdone : j.isDone m.clock with
    | true =>
      refine ((consume h j).map fun value => (some true, value)).congr fun c contexts => ?_
      exact if_pos hdone
    | false =>
      refine (accept (some false, none)).congr fun c contexts => ?_
      exact if_neg (Bool.eq_false_iff.1 hdone)

theorem jobCancel (out : Bool) : Reports (m.native.Says target) m fun c => jobCancel c target out :=
  onOpenJob _ (.inl rfl) out none fun h j => cancelling none h j

theorem jobCancelFor (limit : Nat) (out : Bool) :
    Reports (m.native.Says target) m fun c => jobCancelFor c target limit out :=
  onOpenJob _ (.inr rfl) out none fun h j => cancelling (some limit) h j

theorem jobCancelAsync (out : Bool) :
    Reports (m.native.Says target) m fun c => jobCancelAsync c target out := by
  refine onOpenJob _ (.inl rfl) out none fun h j => ?_
  cases hno : j.isDone m.clock || j.cancelAt.isSome with
  | true => exact (accept none).congr fun c contexts => if_pos hno
  | false =>
    let doneAt := m.clock + j.spec.cancelLatency
    let tracked (s : Simulation) :=
      (s.setJob h { j with cancelAt := some doneAt }).newCancelJob ⟨doneAt, j.spec.cancelProbe⟩
    refine (after (fun m => { m with native := (tracked m.native).2 })
      (accept (some (tracked m.native).1)) List.length_set fun _ => rfl).congr fun c contexts => ?_
    exact if_neg (Bool.eq_false_iff.1 hno)

theorem jobClose : Reports (m.native.Says target) m fun c => jobClose c target :=
  onJob () fun h j => after (fun m =>
    { m with native := m.native.setJob h { j with closed := true } }) (accept ())
      List.length_set fun _ => rfl

end Jobs

/-! ### Calls on cancel jobs -/

section CancelJobs

variable {target : Option Handle}

/-- A call on the cancel job behind a handle. -/
theorem onCancelJob {position : Nat} (hposition : position = 2 ∨ position = 3) (out : Bool)
    {f : Option Handle → CancelJob → Call Simulation (Option Bool)}
    (h : ∀ k, Reports said m fun c => f c k) :
    Reports said m fun c => onCancelJob position c target out (f c) := by
  rcases hk : m.native.cancelJob? target with _ | k
  · have hnull : Reports said m fun c =>
        Simulation.refuse c (localReport (.argError 1) "cancel_job is null") (none : Option Bool) :=
      refuse (by decide) (by decide) _ none
    refine hnull.congr fun c contexts => ?_
    have hk' : (m.withContexts contexts).native.cancelJob? target = none := hk
    rw [Simulation.onCancelJob, hk']
  · refine (needing out hposition none (h k)).congr fun c contexts => ?_
    have hk' : (m.withContexts contexts).native.cancelJob? target = some k := hk
    rw [Simulation.onCancelJob, hk']

variable (target)

theorem cancelJobWait (limit : Nat) (out : Bool) :
    Reports said m fun c => cancelJobWait c target limit out :=
  onCancelJob (.inr rfl) out fun k =>
    waiting (some k.doneAt) (some limit) fun came _ => accept (some came)

theorem cancelJobIsDone (out : Bool) : Reports said m fun c => cancelJobIsDone c target out :=
  onCancelJob (.inl rfl) out fun k =>
    (accept (some (decide (k.doneAt ≤ m.clock)))).congr fun _ _ => rfl

end CancelJobs

end Reports

end Simulation

/-! ## The machine but for one context -/

/-- **The same machine but for what the context behind a handle holds.** -/
def Machine.Apart (h : Handle) (m m' : Machine Simulation) : Prop :=
  m'.filed (some h) none = m.filed (some h) none

namespace Machine.Apart

variable {h : Handle} {m m' m'' : Machine Simulation}

theorem trans (e : m.Apart h m') (e' : m'.Apart h m'') : m.Apart h m'' := Eq.trans e' e

theorem clock (e : m.Apart h m') : m'.clock = m.clock :=
  show (m'.filed (some h) none).clock = (m.filed (some h) none).clock from congrArg _ e

/-- What is left of machines is the contexts. -/
theorem eq_withContexts (e : m.Apart h m') : m' = m.withContexts m'.native.contexts :=
  congrArg (·.withContexts m'.native.contexts) e

theorem contexts (e : m.Apart h m') :
    m'.native.contexts.modify h.index (fun k => { k with latest := none }) =
      m.native.contexts.modify h.index fun k => { k with latest := none } :=
  congrArg (·.native.contexts) e

/-- What a context held does not matter once something else is left with it. -/
theorem filed (m : Machine Simulation) (h : Handle) (latest : Option Simulation.Report) :
    m.Apart h (m.filed (some h) latest) := by
  refine congrArg m.withContexts ?_
  exact List.modify_modify_eq _ _ _ _

/-- A change that looks at no context does not tell the machines apart. -/
theorem map {f : Machine Simulation → Machine Simulation}
    (hf : ∀ m contexts, f (m.withContexts contexts) = (f m).withContexts contexts)
    (e : m.Apart h m') : (f m).Apart h (f m') := by
  have hm : f m = (f m).withContexts m.native.contexts := hf m m.native.contexts
  rw [e.eq_withContexts, hf, hm]
  exact congrArg (f m).withContexts e.contexts

end Machine.Apart

/-- The disposal of a job looks at no context. -/
theorem Simulation.jobDispose_withContexts (target : Option Handle) (m : Machine Simulation)
    (contexts : List Simulation.Context) :
    jobDispose target (m.withContexts contexts) = (jobDispose target m).withContexts contexts := by
  have hjob : (m.withContexts contexts).native.job? target = m.native.job? target := rfl
  unfold jobDispose
  rw [hjob]
  rcases m.native.job? target with _ | j
  · rfl
  · dsimp only
    rcases j.spec.jobProbe with _ | probe <;> rfl

/-! ## What the contexts hold after a call -/

theorem Handle.index_injective {h h' : Handle} (heq : h.index = h'.index) : h = h' := by
  obtain ⟨address, hpos⟩ := h
  obtain ⟨address', hpos'⟩ := h'
  simp only [index] at heq
  simp only [Handle.mk.injEq]
  omega

/-- What the context behind a handle holds, if there is such a context. -/
def Simulation.slot? (s : Simulation) (h : Handle) : Option (Option Report) :=
  (s.context? (some h)).map (·.latest)

theorem Simulation.slot?_congr {s s' : Simulation} (hcontexts : s'.contexts = s.contexts)
    (h : Handle) : s'.slot? h = s.slot? h := by
  rw [slot?, context?, hcontexts, slot?, context?]

theorem Simulation.index_lt_of_slot? {s : Simulation} {h : Handle}
    (hslot : (s.slot? h).isSome = true) : h.index < s.contexts.length := by
  obtain ⟨latest, hlatest⟩ := Option.isSome_iff_exists.1 hslot
  obtain ⟨k, hk, -⟩ := Option.map_eq_some_iff.1 hlatest
  obtain ⟨hlt, -⟩ := List.getElem?_eq_some_iff.1 hk
  exact hlt

/-- A disposal is counted, and that is all. -/
theorem Simulation.jobDispose_native (target : Option Handle) (m : Machine Simulation) :
    ∃ probe, (jobDispose target m).native = m.native.count probe := by
  unfold jobDispose
  rcases m.native.job? target with _ | j
  · exact ⟨none, rfl⟩
  · exact ⟨j.spec.jobProbe, rfl⟩

namespace Machine

variable (m : Machine Simulation) (h : Handle) (latest : Option Simulation.Report)

theorem slot?_filed :
    (m.filed (some h) latest).native.slot? h = (m.native.slot? h).map fun _ => latest := by
  have hcontext : (m.filed (some h) latest).native.context? (some h) =
      (m.native.context? (some h)).map fun k => { k with latest } := List.getElem?_modify_eq _ _ _
  rw [Simulation.slot?, hcontext, Option.map_map, Simulation.slot?, Option.map_map]
  rfl

theorem slot?_filed_of_ne {c : Option Handle} (hc : c ≠ some h) :
    (m.filed c latest).native.slot? h = m.native.slot? h := by
  cases c with
  | none => rfl
  | some h' =>
    exact congrArg (Option.map _) (List.getElem?_modify_ne _ _ fun e =>
      hc (congrArg some (Handle.index_injective e)))

end Machine

namespace Simulation.Reports

variable {said : String → ServerDetail → Prop} {m m' : Machine Simulation}
  {call : Option Handle → Call Simulation α} (hcall : Reports said m call)

include hcall

/-- **A call that looks at no context comes to the same with one as without.** -/
theorem apart {h : Handle} (e : m.Apart h m') :
    (call (some h) m').1 = (call none m).1 ∧
      (call none m).2.Apart h (call (some h) m').2 := by
  obtain ⟨a, m₁, latest, -, -, heq⟩ := hcall
  have hplain : call none m = (a, m₁.withContexts m.native.contexts) := heq none m.native.contexts
  rw [e.eq_withContexts, heq, hplain]
  refine ⟨rfl, .trans ?_ (.filed _ h latest)⟩
  exact congrArg m₁.withContexts e.contexts

/-- **What a context holds after a call that it was given tells of the answer.** -/
theorem tells {h : Handle} (hslot : (m.native.slot? h).isSome = true) :
    ∃ latest, Tells said (call (some h) m).1.status latest ∧
      (call (some h) m).2.native.slot? h = some latest := by
  obtain ⟨a, m₁, latest, htells, -, heq⟩ := hcall
  obtain ⟨held, hheld⟩ := Option.isSome_iff_exists.1 hslot
  have hgiven : call (some h) m = (a, (m₁.withContexts m.native.contexts).filed (some h) latest) :=
    heq (some h) m.native.contexts
  refine ⟨latest, ?_, ?_⟩ <;> rw [hgiven]
  · exact htells
  · rw [Machine.slot?_filed]
    exact congrArg (Option.map fun _ => latest) hheld

/-- What a context holds is not changed by a call that was given another. -/
theorem keeps {h : Handle} {c : Option Handle} (hc : c ≠ some h) :
    (call c m).2.native.slot? h = m.native.slot? h := by
  obtain ⟨a, m₁, latest, -, -, heq⟩ := hcall
  have hgiven : call c m = (a, (m₁.withContexts m.native.contexts).filed c latest) :=
    heq c m.native.contexts
  rw [hgiven]
  exact Machine.slot?_filed_of_ne _ h latest hc

/-- No job is lost. -/
theorem jobs (c : Option Handle) : (call c m).2.native.jobs.length = m.native.jobs.length := by
  obtain ⟨a, m₁, latest, -, hjobs, heq⟩ := hcall
  have hgiven : call c m = (a, (m₁.withContexts m.native.contexts).filed c latest) :=
    heq c m.native.contexts
  rw [hgiven]
  cases c <;> exact hjobs

end Simulation.Reports

end HandleBridge
