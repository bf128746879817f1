import HandleBridge.Proofs.SimulatedTakes
import HandleBridge.Proofs.Terminal
import HandleBridge.Proofs.Told
import HandleBridge.Proofs.Walks

/-!
# Proofs/Telling — every call tells what its context tells

One lemma for each call that takes a context, from `callNative_told`.  A take asks twice: after the
result was handed over it looks up the name of the job, which the library cannot refuse, since the
job is there.
-/

namespace HandleBridge

open HandleBridge.Action Bridge Simulation

variable {α β : Type}

/-! ## What calls meet -/

theorem Bridge.Knows.fit {b : Bridge Simulation} {X : Context} {h : Handle} (hX : b.Knows X h)
    (hopen : (b.resource (b.context X).resource).closed = false) : b.Fit (some X) := by
  intro c hc
  obtain rfl := Option.some.inj hc
  exact ⟨hopen, hX.library⟩

theorem Bridge.Idles.adds {b b' : Bridge Simulation} (h : b.Adds b') : b.Idles b' := by
  obtain ⟨remarks, hjournal⟩ := h.journal
  refine ⟨h.machine, ?_, h.conversions⟩
  have hnone : (remarks.map Event.remarked).countP Event.takesContext = 0 := by
    rw [List.countP_eq_zero]
    intro e he
    obtain ⟨r, -, rfl⟩ := List.mem_map.1 he
    exact Bool.false_ne_true
  rw [contextCalls, hjournal, List.countP_append, hnone]
  rfl

theorem Simulation.job?_isSome_congr {s s' : Simulation} (hjobs : s'.jobs.length = s.jobs.length)
    (target : Option Handle) : (s'.job? target).isSome = (s.job? target).isSome := by
  cases target with
  | none => rfl
  | some h =>
    rw [Bool.eq_iff_iff]
    simp [job?, hjobs]

/-- A call on a native job that succeeds has found the job. -/
theorem Simulation.onJob_isOk {c target : Option Handle} {nothing : α}
    {f : Handle → Simulation.Job → Call Simulation α} {m : Machine Simulation}
    (hok : (onJob c target nothing f m).1.status.isOk = true) :
    (m.native.job? target).isSome = true := by
  have hfailed : (Status.argError 1).isOk ≠ true := by decide
  unfold onJob at hok
  rcases hjob : m.native.job? target with _ | j
  · rw [hjob] at hok
    cases target <;> exact absurd hok hfailed
  · rfl

/-- **A result that is handed over** is that of an open job, and the native job is there. -/
theorem Job.live_of_handedOver {b : Bridge Simulation} {j : Job} {ctx : Option Context}
    {mode : TakeMode} {value : Option Handle} (hlibrary : (b.job j).library = library)
    (h : b.handedOver j ctx mode = some value) :
    b.Live (b.job j).resource ∧
      (b.machine.native.job? (some (b.handleOf j))).isSome = true := by
  have hanswered {γ : Type} {a : Answer γ} {f : γ → Option (Option Handle)}
      (hanswer : a.success?.map f = some (some value)) : a.status.isOk = true := by
    by_contra hfailed
    rw [Answer.success?, if_neg hfailed] at hanswer
    cases hanswer
  obtain ⟨-, hlive, c, -, hanswer⟩ := handedOver_eq_some.1 h
  refine ⟨hlive, ?_⟩
  cases mode <;> rw [State.answer, hlibrary] at hanswer <;> exact onJob_isOk (hanswered hanswer)

/-! ## Each call -/

section Calls

variable {said : String → ServerDetail → Prop} {h : Handle} {X : Context} {b : Bridge Simulation}
  (hX : b.Knows X h) (hslot : (b.machine.native.slot? h).isSome = true)

include hX hslot

theorem Resource.query_told (r : Resource) {symbol : Symbol} (hsymbol : symbol.takesContext = true)
    {call : Option Handle → Option Handle → Call Simulation (Option Bool)}
    (hreports : Reports said b.machine fun c => call c (some (b.resource r).handle)) :
    Told said h b (r.query (some X) symbol call b) := by
  refine .allocateFrom fun out b₁ hquiet e => .withHandle fun _ => ?_
  have hslot₁ : (b₁.machine.native.slot? h).isSome = true := by rwa [e.machine]
  refine .bind hslot₁ ?_ fun answer b₂ _ _ => .pure _ b₂
  rw [hquiet.resource]
  refine callNative_told (hX.quiet hquiet) hslot₁ symbol
    (offers_invokeInto hsymbol _ (fun c => call c (some (b.resource r).handle)) out _) ?_
  rw [e.machine]
  exact hreports

namespace Job

variable {j : Job} (hlibrary : (b.job j).library = library)

include hlibrary

/-! ### Names -/

theorem name_told : Told (b.machine.native.Says (some (b.handleOf j))) h b (j.name (some X) b) := by
  rw [name, bind_of_ok (read_apply _ _)]
  cases (b.job j).name with
  | some name => exact .pure name b
  | none =>
    change Told _ h b (j.lookUpName (some X) b)
    rw [lookUpName, bind_of_ok (read_apply _ _), hlibrary]
    refine .allocateFrom fun out b₁ hquiet e => ?_
    have hslot₁ : (b₁.machine.native.slot? h).isSome = true := by rwa [e.machine]
    refine .bind hslot₁ (.withHandle fun _ => ?_) fun name b₂ _ _ =>
      .idle ⟨rfl, rfl, rfl⟩ fun _ he => by cases he
    rw [hquiet.resource]
    refine callNative_told (hX.quiet hquiet) hslot₁ _ (offers_invokeInto rfl _
      (fun c => jobName c (some (b.handleOf j)) true) out _) ?_
    rw [e.machine]
    exact .jobName _ true

omit hslot in
/-- A name that is not given because a context or a job is closed is not asked for. -/
theorem calls_of_name_failed (hjob : (b.machine.native.job? (some (b.handleOf j))).isSome = true)
    {e : Failure} (he : (j.name (some X) b).1 = .error e) :
    (j.name (some X) b).2.contextCalls = b.contextCalls := by
  obtain ⟨J, hJ⟩ := Option.isSome_iff_exists.1 hjob
  let r := (b.job j).resource
  cases hname : (b.job j).name with
  | some known =>
    rw [name, bind_of_ok (read_apply _ _), hname]
    rfl
  | none =>
  have hlookUp : j.name (some X) b = j.lookUpName (some X) b := by
    rw [name, bind_of_ok (read_apply _ _), hname]
  cases hr : (b.resource r).closed with
  | true =>
    have huntouched := (name_closed hr hname (some X)).2
    exact congrArg (List.countP Event.takesContext) huntouched.journal
  | false =>
  cases hm : (b.manager (b.resource r).manager).closed with
  | true =>
    have halloc : r.allocate [.ofString none] b = (.error .managerClosed, b) :=
      Manager.allocate_of_closed hm _
    rw [hlookUp, lookUpName, bind_of_ok (read_apply _ _), bind_of_error halloc]
  | false =>
  cases hopen : (b.resource (b.context X).resource).closed with
  | true =>
    obtain ⟨out, scratch, n, halloc⟩ := Manager.allocate_of_open hm [.ofString none]
    let b₁ := b.spend (b.resource r).manager scratch n
    have halloc' : r.allocate [.ofString none] b = (.ok out, b₁) := halloc
    have hr₁ : (b₁.resource r).closed = false := hr
    have hclosed : (b₁.resource (b₁.context X).resource).closed = true := hopen
    let ask (handle : Handle) : Action Simulation (Option StringOut) :=
      callNative (some X) .jobName fun c => invokeInto out .ofString .jobName (some handle)
        (library.entry.jobName c (some handle) true)
    obtain ⟨b₂, heq, e⟩ := callNative_idles hclosed .jobName _
    have hask := (Resource.withHandle_of_open hr₁ ask).trans heq
    rw [hlookUp, lookUpName, bind_of_ok (read_apply _ _), bind_of_ok halloc', hlibrary,
      bind_of_error hask]
    exact e.calls
  | false =>
    obtain ⟨_, b', heq, -⟩ := lookUpName_gives ⟨hr, hm⟩ (hX.fit hopen) hlibrary hJ
    rw [hlookUp, heq] at he
    cases he

/-- Looking for a label is looking for the name. -/
theorem label_minds : b.Minds h (j.label (some X) b).2 := by
  rw [label_snd]
  exact (name_told hX hslot hlibrary).minds

theorem label_told (hjob : (b.machine.native.job? (some (b.handleOf j))).isSome = true) :
    Told said h b (j.label (some X) b) where
  minds := label_minds hX hslot hlibrary
  succeeded _ _ hcalls := by
    rw [label_snd] at hcalls ⊢
    rcases hname : (j.name (some X) b).1 with e | name
    · exact absurd (calls_of_name_failed hX hlibrary hjob hname) hcalls
    · exact (name_told hX hslot hlibrary).succeeded name hname hcalls
  failed e he := by
    obtain ⟨name, hname⟩ := label_total j (some X) b
    cases hname.symm.trans he

/-! ### Takes -/

omit hlibrary in
theorem takeNatively_told {s : State Simulation} (hlibrary : s.library = library)
    (target : Handle) (valueOut readyOut : Buffer) (mode : TakeMode) :
    Told (b.machine.native.Says (some target)) h b
      (takeNatively s (some X) target valueOut readyOut mode b) := by
  cases mode with
  | blocking =>
    rw [takeNatively, hlibrary]
    exact .map hslot (callNative_told hX hslot _ (offers_invokeInto rfl _
      (fun c => jobTake c (some target) true) _ _) (.jobTake _ true)) _
  | bounded limit =>
    rw [takeNatively, hlibrary]
    exact .map hslot (callNative_told hX hslot _ (offers_invokeInto rfl _
      (fun c => jobTakeFor c (some target) (Duration.saturate limit) true) _ _)
      (.jobTakeFor _ _ true)) _
  | ifReady =>
    rw [takeNatively, hlibrary]
    refine .bind hslot (callNative_told hX hslot _ ⟨?_, ?_, fun c => ?_⟩
      (.jobTakeIfReady (some target) true true)) fun answer b₁ _ _ => .pure _ b₁
    · exact fun _ _ => ⟨rfl, rfl⟩
    · exact (offers_invoke rfl _ fun c => jobTakeIfReady c (some target) true true).calls
    · exact .bind (Quiet.invoke _ _ _) fun _ => .bind (Quiet.put _ _ _) fun _ =>
        .bind (Quiet.put _ _ _) fun _ => .pure _

theorem takeOnce_told (mode : TakeMode) :
    Told (b.machine.native.Says (some (b.handleOf j))) h b (j.takeOnce (some X) mode b) := by
  rw [takeOnce, bind_of_ok (read_apply _ _), bind_of_ok (read_apply _ _)]
  refine .allocate fun valueOut b₁ hquiet₁ e₁ => .allocate fun readyOut b₂ hquiet₂ e₂ => ?_
  refine .withHandle fun _ => ?_
  split
  · exact .pure _ b₂
  have hmachine : b₂.machine = b.machine := e₂.machine.trans e₁.machine
  have hslot₂ : (b₂.machine.native.slot? h).isSome = true := by rwa [hmachine]
  have htake := takeNatively_told ((hX.quiet hquiet₁).quiet hquiet₂) hslot₂ hlibrary
    (b₂.resource (b.job j).resource).handle valueOut readyOut mode
  rw [hmachine, hquiet₂.resource, hquiet₁.resource] at htake
  rw [hquiet₂.resource, hquiet₁.resource]
  refine .bind hslot₂ htake fun found b₃ _ _ => ?_
  cases found with
  | none => exact .pure _ b₃
  | some value => exact .idle ⟨rfl, rfl, rfl⟩ fun _ he => by cases he

omit hX hslot hlibrary in
/-- Whatever the converter makes of a value, it was invoked. -/
theorem convert_told {value : TakenValue} (hm : (b.manager value.manager).closed = false) :
    Told said h b (j.convert value b) := by
  let b₁ := b.note (.converted j value.handle)
  have hconversions : b₁.conversions.length = b.conversions.length + 1 := by
    simp [b₁, conversions, Bridge.note, Event.conversion?]
  have hcalls : b₁.contextCalls = b.contextCalls := b.contextCalls_note _
  have hm₁ : (b₁.manager value.manager).closed = false := hm
  have e := Idles.adds (value.convert_of_open hm₁ (b.job j).converter)
  rw [convert_apply]
  refine ⟨⟨?_, ?_, ?_, fun _ => ?_⟩, fun _ _ hno => ?_, fun _ _ _ hno => ?_⟩
  · exact Nat.le_of_eq (e.calls.trans hcalls).symm
  · rw [e.conversions, hconversions]
    exact Nat.le_succ _
  · rw [e.machine]
    rfl
  · rw [e.machine]
    rfl
  · exact absurd (e.calls.trans hcalls) hno
  · rw [e.conversions, hconversions] at hno
    exact absurd hno (Nat.succ_ne_self _)

omit hX hslot in
/-- A result that was taken is that of an open job, and the native job is there. -/
theorem live_of_taken {mode : TakeMode} {value : Option Handle} {b₁ : Bridge Simulation}
    (htake : j.takeOnce (some X) mode b = (.ok (.taken value), b₁)) :
    b.Live (b.job j).resource ∧
      (b.machine.native.job? (some (b.handleOf j))).isSome = true := by
  rcases j.takeOnce_cases b (some X) mode with ⟨_, _, hvalue, -, -⟩ | ⟨-, -, hnot⟩
  · exact live_of_handedOver hlibrary hvalue
  · exact absurd (congrArg Prod.fst htake) (hnot value)

/-- A take that comes too late asks for the label at most, and fails with a failure of its own. -/
theorem refuse_told :
    Told said h b ((j.label (some X) >>= fun label =>
      (.fail (.alreadyTaken label) : Action Simulation (Option Yield))) b) := by
  obtain ⟨label, -, heq⟩ := (label_total j (some X)).bind_eq (fun label =>
    (.fail (.alreadyTaken label) : Action Simulation (Option Yield))) b
  rw [heq]
  refine ⟨label_minds hX hslot hlibrary, fun _ hv => ?_, fun e he hnative => ?_⟩
  · cases hv
  · cases he
    cases hnative

/-- A result that was taken goes to the converter with the label. -/
theorem handOver_told (hjob : (b.machine.native.job? (some (b.handleOf j))).isSome = true)
    {m : Manager} (hm : (b.manager m).closed = false) (value : Option Handle)
    (origin : LibraryOrigin) :
    Told said h b ((j.label (some X) >>= fun label =>
      some <$> j.convert ⟨value, m, origin, label⟩) b) := by
  refine .bind hslot (label_told hX hslot hlibrary hjob) fun label b₁ hlabel hslot₁ => ?_
  refine .map hslot₁ (convert_told ?_) some
  have hquiet := Quiet.label j (some X) b
  rw [show j.label (some X) b = (.ok label, b₁) from hlabel] at hquiet
  exact (hquiet.closed m).trans hm

theorem take?_told (hj : b.Has (.job j)) (mode : TakeMode) :
    Told (b.machine.native.Says (some (b.handleOf j))) h b (j.take? (some X) mode b) := by
  rw [take?, bind_of_ok (read_apply _ _), bind_of_ok (read_apply _ _)]
  have htold := takeOnce_told hX hslot hlibrary mode
  refine .bind hslot htold fun found b₁ htake hslot₁ => ?_
  obtain ⟨hgrows, hcontexts⟩ := takeOnce_grows b j (some X) mode
  rw [htake] at hgrows hcontexts htold
  have hX₁ := hX.grows hgrows hcontexts
  have hlibrary₁ := (hgrows.jobLibrary hj).trans hlibrary
  cases found with
  | alreadyTaken => exact refuse_told hX₁ hslot₁ hlibrary₁
  | notReady => exact .idle (.remarked b₁ _) fun _ he => by cases he
  | taken value =>
    obtain ⟨hlive, hjob⟩ := live_of_taken hlibrary htake
    let remark := Remark.resultTaken (b.resource (b.job j).resource).id mode value.isSome
    let b₂ := b₁.note (.remarked remark)
    have hquiet : Quiet b₁ b₂ := .remarked b₁ _
    have hhandle : b₂.handleOf j = b.handleOf j := by
      change (b₁.resource (b₁.job j).resource).handle = _
      rw [hgrows.jobResource hj, hgrows.resource _ (has_of_open hlive.1)]
      rfl
    have hjob₂ : (b₂.machine.native.job? (some (b₂.handleOf j))).isSome = true := by
      rw [hhandle]
      exact (job?_isSome_congr htold.minds.jobs _).trans hjob
    have hm₂ : (b₂.manager (b.resource (b.job j).resource).manager).closed = false :=
      (hquiet.closed _).trans ((hgrows.closed _ (has_of_manager_open hlive.2)).trans hlive.2)
    exact .after (.remarked b₁ remark) <|
      handOver_told (hX₁.quiet hquiet) hslot₁ hlibrary₁ hjob₂ hm₂ value (b.job j).library.origin

theorem takeExpecting_told (hj : b.Has (.job j)) (symbol : Symbol) (mode : TakeMode) :
    Told (b.machine.native.Says (some (b.handleOf j))) h b
      (takeExpecting symbol (j.take? (some X) mode) b) := by
  refine .bind hslot (take?_told hX hslot hlibrary hj mode) fun found b₁ _ _ => ?_
  cases found with
  | none => exact .fail rfl b₁
  | some y => exact .pure y b₁

/-! ### Cancel requests -/

theorem cancelAsync_told :
    Told (b.machine.native.Says (some (b.handleOf j))) h b (j.cancelAsync (some X) b) := by
  cases hm : (b.manager (b.resource (b.job j).resource).manager).closed with
  | true =>
    rw [cancelAsync_of_closed hm]
    exact .fail rfl b
  | false =>
    rw [cancelAsync, bind_of_ok (read_apply _ _), bind_of_ok (read_apply _ _), hlibrary]
    refine .allocate fun out b₁ hquiet e => ?_
    have hslot₁ : (b₁.machine.native.slot? h).isSome = true := by rwa [e.machine]
    have hcalling := Quiet.withHandle (b.job j).resource fun handle =>
      Quiet.callNative (some X) .jobCancelAsync fun c => .invokeInto out .ofHandle .jobCancelAsync
        (some handle) (Simulation.library.entry.jobCancelAsync c (some handle) true)
    refine .bind hslot₁ (.withHandle fun _ => ?_) fun tracker b₂ hcall _ => ?_
    · rw [hquiet.resource]
      refine callNative_told (hX.quiet hquiet) hslot₁ _ (offers_invokeInto rfl _
        (fun c => jobCancelAsync c (some (b.handleOf j)) true) out _) ?_
      rw [e.machine]
      exact .jobCancelAsync _ true
    · cases tracker with
      | none => exact .pure none b₂
      | some t =>
        have hquiet₂ := hcalling b₁
        rw [hcall] at hquiet₂
        have hm₂ : (b₂.manager (b.resource (b.job j).resource).manager).closed = false :=
          (hquiet₂.closed _).trans ((hquiet.closed _).trans hm)
        have e₂ := Idles.adds (.adopted b₂ (b.resource (b.job j).resource).manager t .cancelJob
          (Cancellation.releaser Simulation.library))
        change Told _ h b₂ ((some <$> Cancellation.adopt Simulation.library _ t) b₂)
        rw [map_apply, Cancellation.adopt_of_open hm₂]
        exact .idle ⟨e₂.machine, e₂.calls, e₂.conversions⟩ fun e he => by cases he

/-! ### Closing -/

theorem close_told
    (hreleaser : (b.resource (b.job j).resource).releaser = Job.releaser Simulation.library) :
    Told (b.machine.native.Says (some (b.handleOf j))) h b (j.close (some X) b) := by
  cases hopen : (b.resource (b.job j).resource).closed with
  | true =>
    rw [Job.close_of_closed hopen]
    exact .pure () b
  | false =>
    have hfailure : (b.resource (b.job j).resource).releaser.failure = none := by
      rw [hreleaser]
      rfl
    have hclosing : Told (b.machine.native.Says (some (b.handleOf j))) h b
        (closing b j (some X) b) := by
      rw [closing, hlibrary]
      exact .withHandle fun _ => callNative_told hX hslot _
        (offers_invoke rfl _ fun c => jobClose c (some (b.handleOf j))) (.jobClose _)
    have hresource := (quiet_closing b j (some X) b).resource (b.job j).resource
    have hretire := Shows.retire (b := (closing b j (some X) b).2) (hresource ▸ hreleaser)
    rw [Job.close_of_open hopen hfailure]
    exact (hclosing.before hretire).before (Idles.remarked _ _).shows

end Job

end Calls

/-! ## Every call -/

namespace Operation

/-- What the jobs that a call names are configured to fail with. -/
def Says (op : Operation Simulation α) (b : Bridge Simulation) (message : String)
    (detail : ServerDetail) : Prop :=
  ∃ j, .job j ∈ op.objects ∧ b.machine.native.Says (some (b.handleOf j)) message detail

/-- **A call that is given a context tells what its context tells.** -/
theorem told {T : Terms Simulation} {b : Bridge Simulation} (op : Operation Simulation α)
    (known : op.Known b) (hserved : b.Served T) (hT : ∀ l, T.library l → l = Simulation.library)
    {X : Context} (hop : op.context? = some X) {h : Handle} (hX : b.Knows X h)
    (hslot : (b.machine.native.slot? h).isSome = true) :
    Told (op.Says b) h b (op.perform b) := by
  have hjob {j : Job} (hj : .job j ∈ op.objects) : (b.job j).library = Simulation.library :=
    hT _ (hserved (.job j) (known _ hj)).1.1
  have hsays {j : Job} (hj : .job j ∈ op.objects) {y : Except Failure α × Bridge Simulation}
      (hy : Told (b.machine.native.Says (some (b.handleOf j))) h b y) : Told (op.Says b) h b y :=
    hy.mono fun message detail hsaid => ⟨j, hj, hsaid⟩
  cases op with
  | jobName j ctx =>
    cases hop
    exact hsays (.head _) (Job.name_told hX hslot (hjob (.head _)))
  | jobWait j ctx limit =>
    cases hop
    refine hsays (.head _) ?_
    rw [perform, Job.wait, bind_of_ok (read_apply _ _), hjob (.head _)]
    exact Resource.query_told hX hslot _ rfl (.jobWait _ _ true)
  | jobIsDone j ctx =>
    cases hop
    refine hsays (.head _) ?_
    rw [perform, Job.isDone, bind_of_ok (read_apply _ _), hjob (.head _)]
    exact Resource.query_told hX hslot _ rfl (.jobIsDone _ true)
  | jobTake j ctx =>
    cases hop
    exact hsays (.head _)
      (Job.takeExpecting_told hX hslot (hjob (.head _)) (known _ (.head _)) _ _)
  | jobTakeFor j ctx limit =>
    cases hop
    exact hsays (.head _)
      (Job.takeExpecting_told hX hslot (hjob (.head _)) (known _ (.head _)) _ _)
  | jobTakeIfReady j ctx =>
    cases hop
    exact hsays (.head _) (Job.take?_told hX hslot (hjob (.head _)) (known _ (.head _)) _)
  | jobCancel j ctx =>
    cases hop
    refine hsays (.head _) ?_
    rw [perform, Job.cancel, bind_of_ok (read_apply _ _), hjob (.head _)]
    exact Resource.query_told hX hslot _ rfl (.jobCancel _ true)
  | jobCancelFor j ctx limit =>
    cases hop
    refine hsays (.head _) ?_
    rw [perform, Job.cancelFor, bind_of_ok (read_apply _ _), hjob (.head _)]
    exact Resource.query_told hX hslot _ rfl (.jobCancelFor _ _ true)
  | jobCancelAsync j ctx =>
    cases hop
    exact hsays (.head _) (Job.cancelAsync_told hX hslot (hjob (.head _)))
  | cancellationWait c ctx limit =>
    cases hop
    rw [perform, Cancellation.wait, bind_of_ok (read_apply _ _),
      hT _ (hserved (.cancellation c) (known _ (.head _))).1]
    exact Resource.query_told hX hslot _ rfl (.cancelJobWait _ _ true)
  | cancellationIsDone c ctx =>
    cases hop
    rw [perform, Cancellation.isDone, bind_of_ok (read_apply _ _),
      hT _ (hserved (.cancellation c) (known _ (.head _))).1]
    exact Resource.query_told hX hslot _ rfl (.cancelJobIsDone _ true)
  | close o ctx =>
    cases o with
    | job j =>
      cases hop
      obtain ⟨-, -, -, hreleaser⟩ := hserved (.job j) (known _ (.head _))
      rw [hjob (.head _)] at hreleaser
      exact hsays (.head _) (Job.close_told hX hslot (hjob (.head _)) hreleaser)
    | _ => cases hop
  | _ => cases hop

end Operation

end HandleBridge
