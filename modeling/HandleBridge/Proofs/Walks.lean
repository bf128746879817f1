import HandleBridge.Proofs.NativeAnswer
import HandleBridge.Proofs.Registration
import HandleBridge.Proofs.Steps

/-!
# Proofs/Walks — every call is made of steps

One lemma for each call, from the lemmas of the calls that it is made of.  A call is followed from
the bridge that it started at: what that bridge grants, the objects that the call names and the
handle that is passed for its context, remains for all of the call.
-/

namespace HandleBridge

open HandleBridge.Action

variable {σ α β : Type}

/-! ## Moves of a native library -/

/-- How a native library moves the machine when the contexts that it is given are of a sort.  What
only reads a context may read any. -/
structure EntryPoints.Moves (e : EntryPoints σ) (given : Option Handle → Prop)
    (M : Symbol → Machine σ → Machine σ → Prop) : Prop where
  contextCreate : ∀ out m, M .contextCreate m (e.contextCreate out m).2
  contextReturnCode : ∀ c out m, M .contextReturnCode m (e.contextReturnCode c out m).2
  contextErrorName : ∀ c out m, M .contextErrorName m (e.contextErrorName c out m).2
  contextErrorType : ∀ c out m, M .contextErrorType m (e.contextErrorType c out m).2
  contextErrorMessage : ∀ c out m, M .contextErrorMessage m (e.contextErrorMessage c out m).2
  contextCategoryNumber : ∀ c out m,
    M .contextCategoryNumber m (e.contextCategoryNumber c out m).2
  contextCategoryText : ∀ c out m, M .contextCategoryText m (e.contextCategoryText c out m).2
  contextCodeNumber : ∀ c out m, M .contextCodeNumber m (e.contextCodeNumber c out m).2
  contextStructuredCode : ∀ c out m,
    M .contextStructuredCode m (e.contextStructuredCode c out m).2
  cancelJobWait :
    ∀ c, given c → ∀ h limit out m, M .cancelJobWait m (e.cancelJobWait c h limit out m).2
  cancelJobIsDone : ∀ c, given c → ∀ h out m, M .cancelJobIsDone m (e.cancelJobIsDone c h out m).2
  jobName : ∀ c, given c → ∀ h out m, M .jobName m (e.jobName c h out m).2
  jobWait : ∀ c, given c → ∀ h limit out m, M .jobWait m (e.jobWait c h limit out m).2
  jobIsDone : ∀ c, given c → ∀ h out m, M .jobIsDone m (e.jobIsDone c h out m).2
  jobTake : ∀ c, given c → ∀ h out m, M .jobTake m (e.jobTake c h out m).2
  jobTakeFor : ∀ c, given c → ∀ h limit out m, M .jobTakeFor m (e.jobTakeFor c h limit out m).2
  jobTakeIfReady :
    ∀ c, given c → ∀ h out valueOut m, M .jobTakeIfReady m (e.jobTakeIfReady c h out valueOut m).2
  jobCancel : ∀ c, given c → ∀ h out m, M .jobCancel m (e.jobCancel c h out m).2
  jobCancelFor :
    ∀ c, given c → ∀ h limit out m, M .jobCancelFor m (e.jobCancelFor c h limit out m).2
  jobCancelAsync : ∀ c, given c → ∀ h out m, M .jobCancelAsync m (e.jobCancelAsync c h out m).2
  jobClose : ∀ c, given c → ∀ h m, M .jobClose m (e.jobClose c h m).2
  loggerInit : ∀ filters file m, M .loggerInit m (e.loggerInit filters file m).2

/-- On no terms at all a native library moves as it likes. -/
theorem EntryPoints.moves_any (e : EntryPoints σ) (given : Option Handle → Prop) :
    e.Moves given Terms.any.moves := by
  constructor <;> intros <;> exact trivial

namespace Bridge

/-- What a bridge grants to a call that is passed a context. -/
structure Grants (b : Bridge σ) (T : Terms σ) (given : Option Handle → Prop)
    (ctx : Option Context) : Prop where
  served : b.Served T
  moves : ∀ library, T.library library → library.entry.Moves given T.moves
  has : ∀ c, ctx = some c → b.Has (.context c)
  passed : ∀ c, b.passed ctx = some c → given c

/-- What is passed for a context that remains was passed for it before. -/
theorem Remains.passed {b b' : Bridge σ} (h : Remains b b') {ctx : Option Context}
    (hctx : ∀ c, ctx = some c → b.Has (.context c) ∧ b.Has (.resource (b.context c).resource))
    {c : Option Handle} (hc : b'.passed ctx = some c) : b.passed ctx = some c := by
  cases ctx with
  | none => exact hc
  | some X =>
    obtain ⟨hX, hr⟩ := hctx X rfl
    rw [Bridge.passed, h.context X hX, h.handle hr] at hc
    rw [Bridge.passed]
    cases hclosed : (b.resource (b.context X).resource).closed with
    | true =>
      rw [h.closed_resource hr hclosed] at hc
      cases hc
    | false =>
      cases hclosed' : (b'.resource (b.context X).resource).closed <;> rw [hclosed'] at hc
      · exact hc
      · cases hc

end Bridge

/-! ## Calls that walk -/

/-- Does a call walk on from wherever a walk has come? -/
def Action.Walks (T : Terms σ) (b₀ : Bridge σ) (x : Action σ α) : Prop :=
  ∀ b, Walk T b₀ b → Walk T b (x b).2

namespace Action.Walks

open Bridge

variable {T : Terms σ} {b₀ : Bridge σ} {x : Action σ α}

theorem attempt (h : x.Walks T b₀) : (Action.attempt x).Walks T b₀ := h

theorem pure (a : α) : (Pure.pure a : Action σ α).Walks T b₀ := fun b _ => .refl b

theorem fail (e : Failure) : (Action.fail e : Action σ α).Walks T b₀ := fun b _ => .refl b

theorem ofExcept (r : Except Failure α) : (Action.ofExcept r : Action σ α).Walks T b₀ :=
  fun b _ => .refl b

theorem bind_at {b : Bridge σ} {f : α → Action σ β} (hb : Walk T b₀ b) (hx : x.Walks T b₀)
    (hf : ∀ a, (x b).1 = .ok a → (f a).Walks T b₀) : Walk T b ((x >>= f) b).2 :=
  Ensures.bind_at (hx b hb) fun a ha => hf a ha _ (hb.trans (hx b hb))

theorem bind {f : α → Action σ β} (hx : x.Walks T b₀) (hf : ∀ a, (f a).Walks T b₀) :
    (x >>= f).Walks T b₀ := fun _ hb => bind_at hb hx fun a _ => hf a

/-- What is read is read wherever the walk has come. -/
theorem read {γ : Type} {f : Bridge σ → γ} {g : γ → Action σ α}
    (h : ∀ b, Walk T b₀ b → (g (f b)).Walks T b₀) : (Action.read f >>= g).Walks T b₀ :=
  fun b hb => h b hb b hb

theorem map {f : α → β} (hx : x.Walks T b₀) : (f <$> x).Walks T b₀ := hx.bind fun a => .pure (f a)

/-- What is quiet and touches neither the machine nor memory is one step. -/
theorem still (hquiet : x.Ensures Quiet) (hmachine : ∀ b, (x b).2.machine = b.machine)
    (hregions : ∀ b, SameRegions b (x b).2) : x.Walks T b₀ :=
  fun b _ => .step (.still (hquiet b) (hmachine b) (hregions b))

theorem step {f : Bridge σ → Bridge σ} (h : ∀ b, Walk T b₀ b → Step T b (f b)) :
    (Action.update f).Walks T b₀ := fun b hb => .step (h b hb)

theorem remark (r : Remark) : (Action.remark r : Action σ Unit).Walks T b₀ :=
  fun b _ => .step (.remarked b r)

theorem remark? (r : Option Remark) : (Action.remark? r : Action σ Unit).Walks T b₀ := fun b _ => by
  rw [remark?_apply]
  exact .step (.tell b r)

theorem clock : (Action.clock : Action σ Nat).Walks T b₀ := fun b _ => .refl b

theorem ofFailure (e : Option Failure) : (Action.ofFailure e : Action σ Unit).Walks T b₀ := by
  cases e with
  | none => exact .pure ()
  | some e => exact .fail e

theorem outside {f : Machine σ → α × Machine σ} (h : ∀ m, T.outside m (f m).2) :
    (Action.run f).Walks T b₀ := fun b _ => .step (.outside (h b.machine))

theorem allocating (m : Manager) {f : Scratch → Except Failure α × Scratch}
    (hf : ∀ s, Scratch.Carved m s (f s).2) : (m.allocating f : Action σ α).Walks T b₀ := by
  intro b _
  cases hm : (b.manager m).closed with
  | true =>
    rw [Manager.allocating_of_closed hm]
    exact .refl b
  | false =>
    rw [Manager.allocating, bind_of_ok (read_apply _ _), if_neg (Bool.eq_false_iff.1 hm)]
    exact (Walk.step (.carve hm (hf b.scratch))).trans (.step (.charge _ m _))

theorem allocate (m : Manager) (cells : List Cell) :
    (m.allocate cells : Action σ _).Walks T b₀ := allocating m fun s => .allocate s m cells

/-- What is handed out lies in the region of an open scope. -/
theorem allocateContent (m : Manager) (content : Content) :
    (Operation.allocateContent m content >>= Manager.handOut : Action σ _).Walks T b₀ := by
  rw [content.allocateContent_eq]
  intro b hb
  have hallocating := allocating m (content.carved_take m) b hb
  refine Ensures.bind_at hallocating fun out hout => .step (.hold (.inl ?_))
  have hopen : ((m.allocating (content.take m) b).2.manager m).closed = (b.manager m).closed :=
    (Quiet.allocating m _ b).closed m
  obtain ⟨hm, htake, -⟩ := Manager.allocating_eq_ok hout
  rw [Content.region_take htake]
  exact Manager.State.phase_ne_ended (hopen.trans hm)

theorem allocateFrom (r : Resource) (cells : List Cell) :
    (r.allocate cells : Action σ _).Walks T b₀ := read fun _ _ => allocate _ _

theorem allocateHeld (r : Resource) (cells : List Cell) :
    (r.allocate cells >>= Manager.handOut : Action σ _).Walks T b₀ := fun b hb =>
  allocateContent (b.resource r).manager (.cells cells) b hb

theorem withHandle (r : Resource) {f : Handle → Action σ α} (hf : ∀ h, (f h).Walks T b₀) :
    (r.withHandle f).Walks T b₀ := by
  refine read fun b _ => ?_
  split
  · exact .fail _
  · exact hf _

/-! ### Calls of entry points -/

theorem invoke (symbol : Symbol) (target : Option Handle) {call : Call σ α}
    (h : ∀ m, T.moves symbol m (call m).2) :
    (HandleBridge.invoke symbol target call).Walks T b₀ :=
  fun b _ => .step (.call (h b.machine) target)

theorem put (buffer : Buffer) (offset : Nat) (cell : Cell) :
    (Manager.put buffer offset cell : Action σ Unit).Walks T b₀ :=
  step fun b _ => .write b buffer offset cell

theorem invokeInto (out : Buffer) (cell : α → Cell) (symbol : Symbol) (target : Option Handle)
    {call : Call σ α} (h : ∀ m, T.moves symbol m (call m).2) :
    (HandleBridge.invokeInto out cell symbol target call).Walks T b₀ :=
  .bind (invoke symbol target h) fun _ => .bind (put out 0 _) fun _ => .pure _

theorem ask (symbol : Symbol) {getter : Option Handle → Bool → Call σ α}
    (h : ∀ c out m, T.moves symbol m (getter c out m).2) (ctx : Handle)
    (take : Answer α → Reading) : (HandleBridge.ask symbol getter ctx take).Walks T b₀ :=
  .map (invoke symbol _ (h _ _))

variable {given : Option Handle → Prop}

theorem readDiagnostic {entry : EntryPoints σ} (h : entry.Moves given T.moves) (ctx : Handle)
    (status : Status) : (HandleBridge.readDiagnostic entry ctx status).Walks T b₀ := by
  refine .bind (.bind (ask _ h.contextErrorName ctx _) fun _ =>
    ask _ h.contextErrorMessage ctx _) fun r => ?_
  split
  · exact .bind (.bind (ask _ h.contextCategoryNumber ctx _) fun _ =>
      .bind (ask _ h.contextCategoryText ctx _) fun _ =>
      .bind (ask _ h.contextCodeNumber ctx _) fun _ =>
      ask _ h.contextStructuredCode ctx _) fun _ => .pure _
  · exact .pure _

variable {ctx : Option Context}

theorem callNative (hg : b₀.Grants T given ctx) (symbol : Symbol)
    {call : Option Handle → Action σ (Answer α)} (hcall : ∀ c, given c → (call c).Walks T b₀) :
    (HandleBridge.callNative ctx symbol call).Walks T b₀ := by
  have report (start : Nat) (result : Option Status × Except Failure α) :
      (do
        let span := (← .clock) - start
        .remark? (Remark.ofNativeCall symbol span)
        .remark (.nativeCallEnded symbol (Duration.micros span) result.1)
        .ofExcept result.2 : Action σ α).Walks T b₀ :=
    .bind clock fun _ => .bind (remark? _) fun _ => .bind (remark _) fun _ => .ofExcept _
  refine .bind (remark _) fun _ => .bind clock fun start => ?_
  cases ctx with
  | none => exact .bind (.bind (hcall none (hg.passed none rfl)) fun _ => .pure _) (report start)
  | some X =>
    have hX := hg.has X rfl
    have hserves := hg.served _ hX
    refine .bind (fun b hb => ?_) (report start)
    have hcontext := hb.remains.context X hX
    have hpassed {c : Option Handle} (hc : b.passed (some X) = some c) : given c :=
      hg.passed c (hb.remains.passed (fun c hc => by
        obtain rfl := Option.some.inj hc
        exact ⟨hX, hserves.2.1⟩) hc)
    rw [callWith, bind_of_ok (read_apply _ _), bind_of_ok (read_apply _ _), hcontext]
    split
    · exact .refl b
    · rename_i hopen
      have hgiven := hpassed (by rw [Bridge.passed, hcontext]; exact if_neg hopen)
      refine bind_at hb (hcall _ hgiven) fun answer _ => ?_
      split
      · exact .pure _
      · exact .bind (readDiagnostic (hg.moves _ hserves.1) _ _) fun _ => .pure _

theorem query (hg : b₀.Grants T given ctx) (r : Resource) (symbol : Symbol)
    {call : Option Handle → Option Handle → Call σ (Option Bool)}
    (hcall : ∀ c, given c → ∀ h m, T.moves symbol m (call c h m).2) :
    (r.query ctx symbol call).Walks T b₀ :=
  .bind (allocateFrom r _) fun _ => withHandle r fun h =>
    .bind (callNative hg symbol fun c hc => invokeInto _ _ _ _ (hcall c hc (some h))) fun _ =>
      .pure _

/-! ### Contexts -/

section Contexts

variable (hg : b₀.Grants T given none) {X : Context} (hX : b₀.Has (.context X))

include hg hX

/-- The library of a context that was made is one of the terms. -/
theorem library_context {b : Bridge σ} (hb : Walk T b₀ b) :
    (b.context X).library.entry.Moves given T.moves := by
  rw [hb.remains.context X hX]
  exact hg.moves _ (hg.served _ hX).1

theorem field (symbol : Symbol) (initial : Cell) (cell : α → Cell)
    {getter : EntryPoints σ → Option Handle → Bool → Call σ α}
    (hgetter : ∀ e : EntryPoints σ, e.Moves given T.moves →
      ∀ c out m, T.moves symbol m (getter e c out m).2) :
    (X.field symbol initial cell getter).Walks T b₀ := by
  refine .read fun b hb => .bind (allocateFrom _ _) fun out => withHandle _ fun h => ?_
  refine .bind (invokeInto out cell symbol _ (hgetter _ (library_context hg hX hb) _ _))
    fun answer => ?_
  split
  · exact .pure _
  · split
    · exact .pure _
    · exact .fail _

theorem diagnostic : (X.diagnostic : Action σ Diagnostic).Walks T b₀ := by
  refine .read fun b hb => withHandle _ fun h => ?_
  have hl := library_context hg hX hb
  refine .bind (invoke _ _ (hl.contextReturnCode _ _)) fun answer => ?_
  split
  · exact readDiagnostic hl _ _
  · exact .fail _

end Contexts

theorem library_cancellation (hg : b₀.Grants T given ctx) {k : Cancellation}
    (hk : b₀.Has (.cancellation k)) {b : Bridge σ} (hb : Walk T b₀ b) :
    (b.cancellation k).library.entry.Moves given T.moves :=
  hg.moves _ (hb.remains.serves hk (hg.served _ hk)).1

/-! ### Jobs -/

section Jobs

variable {j : Job} (hg : b₀.Grants T given ctx) (hj : b₀.Has (.job j))

include hg hj

theorem serves_job {b : Bridge σ} (hb : Walk T b₀ b) : b.Serves T (.job j) :=
  hb.remains.serves hj (hg.served _ hj)

theorem library_job {b : Bridge σ} (hb : Walk T b₀ b) :
    (b.job j).library.entry.Moves given T.moves := hg.moves _ (serves_job hg hj hb).1.1

theorem name : (j.name ctx : Action σ _).Walks T b₀ := by
  refine .read fun _ _ => ?_
  split
  · exact .pure _
  refine .read fun b hb => .bind (allocateFrom _ _) fun out => ?_
  refine .bind (withHandle _ fun h => callNative hg _ fun c hc =>
    invokeInto _ _ _ _ ((library_job hg hj hb).jobName c hc _ _)) fun name => ?_
  exact .bind (still (fun b => .remember b j _) (fun _ => rfl) fun _ => .of_eq rfl rfl) fun _ =>
    .pure _

theorem label : (j.label ctx : Action σ _).Walks T b₀ := by
  refine .bind (name hg hj).attempt fun r => ?_
  split <;> exact .pure _

theorem takeOnce (mode : TakeMode) : (j.takeOnce ctx mode : Action σ _).Walks T b₀ := by
  refine .read fun b hb => .read fun _ _ => .bind (allocate _ _) fun valueOut =>
    .bind (allocate _ _) fun readyOut => withHandle _ fun h => ?_
  have hl := library_job hg hj hb
  split
  · exact .pure _
  · refine .bind ?_ fun answer => ?_
    · cases mode with
      | blocking =>
        exact .map (callNative hg _ fun c hc => invokeInto _ _ _ _ (hl.jobTake c hc _ _))
      | bounded limit =>
        exact .map (callNative hg _ fun c hc => invokeInto _ _ _ _ (hl.jobTakeFor c hc _ _ _))
      | ifReady =>
        refine .bind (callNative hg _ fun c hc => ?_) fun _ => .pure _
        exact .bind (invoke _ _ (hl.jobTakeIfReady c hc _ _ _)) fun _ =>
          .bind (put _ _ _) fun _ => .bind (put _ _ _) fun _ => .pure _
    · split
      · exact .pure _
      · exact .bind (step fun b _ => .take b j) fun _ => .pure _

end Jobs

/-! ### Adoption -/

/-- What is offered to a manager is taken in, or released at once. -/
theorem adopt (m : Manager) (h : Handle) {kind : Kind} {releaser : Releaser σ}
    (hr : T.Releases kind releaser) : (Resource.adopt m h kind releaser).Walks T b₀ := by
  intro b _
  cases hm : (b.manager m).closed with
  | true =>
    rw [Resource.adopt_of_closed hm]
    exact (Walk.step (.reject hm h hr)).trans (.step (.tell _ _))
  | false =>
    rw [Resource.adopt_of_open hm]
    exact (Walk.step (.accept hm h hr)).trans (.step (.remarked _ _))

/-- A wrapper is made for a resource that was just accepted. -/
theorem adopt_bind (m : Manager) (h : Handle) {kind : Kind} {releaser : Releaser σ}
    (hr : T.Releases kind releaser) {f : Resource → Action σ α}
    (hf : ∀ r b, b.Wraps r kind releaser → Walk T b (f r b).2) :
    (Resource.adopt m h kind releaser >>= f).Walks T b₀ := by
  refine fun b hb => Ensures.bind_at (adopt m h hr b hb) fun r hr => hf r _ ?_
  cases hm : (b.manager m).closed with
  | true =>
    rw [Resource.adopt_of_closed hm] at hr
    cases hr
  | false =>
    rw [Resource.adopt_of_open hm] at hr ⊢
    obtain rfl := Except.ok.inj hr
    have hnext := b.resource_enroll_next m h kind releaser
    refine ⟨?_, congrArg Resource.State.kind hnext, congrArg Resource.State.releaser hnext⟩
    exact Nat.lt_of_lt_of_eq (Nat.lt_succ_self _) (Table.size_add _ _).symm

theorem adoptContext {library : Library σ} (hl : T.library library) (m : Manager) (h : Handle) :
    (Context.adopt library m h).Walks T b₀ :=
  adopt_bind m h (.context hl) fun _ _ hr => .step (.context hl hr)

theorem adoptJob {library : Library σ} (hl : T.library library) (m : Manager) (h : Handle)
    {converter : Converter σ} (hc : T.Converts converter) :
    (Job.adopt library m h converter).Walks T b₀ :=
  adopt_bind m h (.job hl) fun _ _ hr => .step (.job hl hc hr rfl)

theorem adoptCancellation {library : Library σ} (hl : T.library library) (m : Manager)
    (h : Handle) : (Cancellation.adopt library m h).Walks T b₀ :=
  adopt_bind m h (.cancellation hl) fun _ _ hr => .step (.cancellation hl hr)

theorem createContext {library : Library σ} (hl : T.library library)
    (hmoves : library.entry.Moves given T.moves) (m : Manager) :
    (Context.create library m).Walks T b₀ := by
  refine .bind (allocate m _) fun out =>
    .bind (invokeInto _ _ _ _ (hmoves.contextCreate _)) fun answer => ?_
  split
  · split
    · exact adoptContext hl m _
    · exact .fail _
  · exact .fail _

section Jobs

variable {j : Job} (hg : b₀.Grants T given ctx) (hj : b₀.Has (.job j))

include hg hj

theorem cancelAsync : (j.cancelAsync ctx : Action σ _).Walks T b₀ := by
  refine .read fun b hb => .read fun _ _ => .bind (allocate _ _) fun out => ?_
  refine .bind (withHandle _ fun h => callNative hg _ fun c hc =>
    invokeInto _ _ _ _ ((library_job hg hj hb).jobCancelAsync c hc _ _)) fun tracker => ?_
  split
  · exact .pure _
  · exact .map (adoptCancellation (serves_job hg hj hb).1.1 _ _)

theorem convert (value : TakenValue) : (j.convert value : Action σ Yield).Walks T b₀ := by
  refine .bind (step fun b _ => .convert b j _) fun _ => .read fun b hb => ?_
  have hconverts := (serves_job hg hj hb).1.2
  have habandon : (value.abandon : Action σ Unit).Walks T b₀ := by
    rw [TakenValue.abandon]
    split
    · exact remark _
    · exact .pure _
  generalize (b.job j).converter = converter at hconverts
  cases converter with
  | void => exact .bind habandon fun _ => .pure _
  | inspect => exact .bind habandon fun _ => .pure _
  | reject e => exact .bind habandon fun _ => .fail _
  | adopt kind dispose failure =>
    rw [TakenValue.convert]
    split
    · exact .fail _
    · exact .bind (adopt _ _ (.value hconverts kind failure)) fun _ => .pure _

theorem take? (mode : TakeMode) : (j.take? ctx mode : Action σ _).Walks T b₀ := by
  refine .read fun _ _ => .read fun _ _ => .bind (takeOnce hg hj mode) fun answer => ?_
  cases answer with
  | alreadyTaken => exact .bind (label hg hj) fun _ => .fail _
  | notReady => exact .bind (remark _) fun _ => .pure _
  | taken value =>
    exact .bind (remark _) fun _ => .bind (label hg hj) fun _ => .map (convert hg hj _)

theorem takeExpecting (symbol : Symbol) (mode : TakeMode) :
    (Job.takeExpecting symbol (j.take? ctx mode) : Action σ _).Walks T b₀ := by
  refine .bind (take? hg hj mode) fun answer => ?_
  split
  · exact .pure _
  · exact .fail _

end Jobs

/-! ### Closing -/

theorem release (r : Resource) : (r.release : Action σ Bool).Walks T b₀ := by
  intro b _
  cases hopen : (b.resource r).closed with
  | true =>
    rw [Resource.release_of_closed hopen]
    exact .refl b
  | false =>
    rw [Resource.release_of_open hopen]
    exact (Walk.step (.retire hopen)).trans (.step (.remarked _ _))

theorem close (r : Resource) : (r.close : Action σ Unit).Walks T b₀ :=
  .bind (release r) fun _ => .pure _

theorem drop (r : Resource) : (r.drop : Action σ Unit).Walks T b₀ := by
  refine .read fun _ _ => .bind (release r).attempt fun result => ?_
  split
  · exact remark _
  · exact .pure _
  · exact remark _

theorem releaseAll (registry : Registry) (outcome : Teardown) (failures : List Failure) :
    (Manager.releaseAll registry outcome failures : Action σ _).Walks T b₀ := by
  induction registry generalizing outcome failures with
  | nil => exact .pure _
  | cons entry rest ih =>
    refine .read fun _ _ => .bind (release entry.2).attempt fun result => ?_
    split
    · exact ih _ _
    · exact ih _ _
    · exact .bind (remark _) fun _ => ih _ _

theorem closeManager (m : Manager) : (m.close : Action σ Teardown).Walks T b₀ := by
  refine .read fun _ _ => ?_
  split
  · exact .pure _
  · refine .bind (step fun b _ => .shut b m) fun _ => .bind clock fun _ =>
      .bind (releaseAll _ _ _) fun _ => .bind clock fun _ =>
      .bind (step fun b _ => .handBack b m) fun _ => .bind (remark _) fun _ => ?_
    exact .bind (remark? _) fun _ => .bind (.ofFailure _) fun _ => .pure _

theorem dropManager (m : Manager) : (m.drop : Action σ Unit).Walks T b₀ := by
  intro b hb
  rw [Manager.drop, bind_of_ok (read_apply _ _)]
  split
  · rename_i hm
    exact .step (.forsake hm)
  · have hclose := closeManager m b hb
    have hm := b.closed_close m
    have hremarked (r : Remark) :
        Walk T b (((m.close b).2.note (.remarked r)).modifyManager m (·.forsake)) :=
      hclose.trans <| (Walk.step (.remarked _ r)).trans (.step (.forsake hm))
    rw [bind_of_ok (attempt_apply _ _)]
    rcases (m.close b).1 with e | outcome
    · exact hremarked _
    · dsimp only
      split
      · exact hremarked _
      · exact hclose.trans (.step (.forsake hm))

theorem closeJob {j : Job} (hg : b₀.Grants T given ctx) (hj : b₀.Has (.job j)) :
    (j.close ctx : Action σ Unit).Walks T b₀ := by
  refine .read fun b hb => .read fun _ _ => ?_
  split
  · exact .pure _
  · refine .bind (.attempt (withHandle _ fun h => callNative hg _ fun c hc =>
      invoke _ _ ((library_job hg hj hb).jobClose c hc _))) fun _ => ?_
    exact .bind (close _).attempt fun _ => .bind (.ofExcept _) fun _ => .ofExcept _

theorem closeObject {o : Object} (hg : ∀ j, o = .job j → b₀.Grants T given ctx) (ho : b₀.Has o) :
    (Operation.closeObject ctx o : Action σ Unit).Walks T b₀ := by
  cases o with
  | manager m => exact .map (closeManager m)
  | resource r => exact close r
  | context c => exact .read fun _ _ => close _
  | job j => exact closeJob (hg j rfl) ho
  | cancellation c => exact .read fun _ _ => close _

theorem dropObject (o : Object) : (Operation.dropObject o : Action σ Unit).Walks T b₀ := by
  cases o with
  | manager m => exact dropManager m
  | resource r => exact drop r
  | context c => exact .read fun _ _ => drop _
  | job j => exact .read fun _ _ => drop _
  | cancellation c => exact .read fun _ _ => drop _

/-! ### Registries and the process -/

theorem createManager (capacity : Nat) : (Manager.create capacity : Action σ _).Walks T b₀ := by
  rw [Manager.create]
  split
  · exact .pure _
  · exact .read fun _ _ => .bind (step fun b _ => .create b _) fun _ => .bind (remark _) fun _ =>
      .pure _

theorem register (m : Manager) (r : Resource) : (m.register r : Action σ Unit).Walks T b₀ := by
  intro b _
  rcases m.register_cases b r with ⟨e, heq⟩ | ⟨heq, hr, howner, hm⟩ <;> rw [heq]
  · exact .refl b
  · exact .step (.enter hr howner hm)

theorem deregister (m : Manager) (r : Resource) :
    (m.deregister r : Action σ Bool).Walks T b₀ := by
  intro b _
  rw [m.deregister_apply]
  split
  · exact (Walk.step (.withdraw b m _)).trans (.step (.remarked _ _))
  · exact .refl b

theorem process (f : Process σ → Process σ) :
    (Action.update (·.modifyProcess f) : Action σ Unit).Walks T b₀ :=
  still (Quiet.asking.modifyProcess f) (fun _ => rfl) fun _ => .of_eq rfl rfl

theorem setUpLogger {library : Library σ} (hl : library.entry.Moves given T.moves)
    (filters : String) (file : Option String) :
    (Logger.setUp library filters file).Walks T b₀ := by
  refine .read fun _ _ => ?_
  split
  · exact .bind (remark _) fun _ => .pure _
  refine .bind ?_ fun _ => .bind (process _) fun _ => .pure _
  refine .bind (.ofExcept _) fun _ => .bind (.ofExcept _) fun _ =>
    .bind (invoke _ _ (hl.loggerInit _ _)) fun answer => ?_
  split
  · exact remark _
  · exact .fail _

theorem loadAnnounced (open? : Loader σ) (path : String) :
    (Library.loadAnnounced open? path).Walks T b₀ :=
  .bind (.ofExcept _) fun _ => .bind (remark _) fun _ => .pure _

theorem share (open? : Loader σ) (config : Config) :
    (Library.share open? config).Walks T b₀ := by
  refine .read fun _ _ => ?_
  split
  · exact .pure _
  · exact .bind (.ofExcept _) fun _ => .bind (loadAnnounced _ _) fun _ =>
      .bind (process _) fun _ => .pure _

end Action.Walks

/-! ## Operations -/

namespace Operation

/-- The context that a call passes on to the native library. -/
def context? : {α : Type} → Operation σ α → Option Context
  | _, jobName _ ctx | _, jobWait _ ctx _ | _, jobIsDone _ ctx | _, jobTake _ ctx
  | _, jobTakeFor _ ctx _ | _, jobTakeIfReady _ ctx | _, jobCancel _ ctx | _, jobCancelFor _ ctx _
  | _, jobCancelAsync _ ctx | _, cancellationWait _ ctx _ | _, cancellationIsDone _ ctx
  | _, close (.job _) ctx => ctx
  | _, _ => none

/-- Is what a call brings along on the terms? -/
def On (T : Terms σ) : {α : Type} → Operation σ α → Prop
  | _, createContext library _ | _, adoptContext library _ _ => T.library library
  | _, adoptJob library _ _ converter => T.library library ∧ T.Converts converter
  | _, outside change => ∀ m, T.outside m (change m)
  | _, setUpLogger library _ _ | _, setUpLoggerFrom library _ => T.library library
  | _, _ => True

theorem on_any (op : Operation σ α) : op.On .any := by
  cases op with
  | adoptJob library m h converter =>
    refine ⟨trivial, ?_⟩
    cases converter <;> exact trivial
  | outside change => exact fun _ => trivial
  | _ => exact trivial

theorem mem_objects_context? (op : Operation σ α) {c : Context} (h : op.context? = some c) :
    .context c ∈ op.objects := by
  have hnone : none ≠ some c := (Option.some_ne_none c).symm
  cases op with
  | close o ctx =>
    cases o with
    | job j => exact List.mem_cons_of_mem _ (by simpa [context?] using h)
    | _ => exact absurd h hnone
  | _ => first
    | exact absurd h hnone
    | exact List.mem_cons_of_mem _ (by simpa [context?] using h)

open HandleBridge.Action Bridge

variable {T : Terms σ} {given : Option Handle → Prop} {b : Bridge σ}

/-- **Every call is made of steps**, on the terms of what it brings along and of what it meets. -/
theorem walks (op : Operation σ α) (known : op.Known b) (hop : op.On T)
    (hg : b.Grants T given op.context?) : Walk T b (op.after b) := by
  suffices hwalks : op.perform.Walks T b from hwalks b (.refl b)
  cases op with
  | createManager capacity => exact .createManager capacity
  | closeManager m => exact .closeManager m
  | register m r => exact .register m r
  | deregister m r => exact .deregister m r
  | allocate m content => exact .allocateContent m content
  | allocateFrom r cells => exact .allocateHeld r cells
  | write buffer offset cell => exact .put buffer offset cell
  | dropBuffer buffer => exact .step fun b _ => .letGo b buffer
  | adopt m h kind pause failure => exact .adopt m h (.scripted kind pause failure)
  | handle r => exact .withHandle r fun h => .pure h
  | createContext library m => exact .createContext hop (hg.moves _ hop) m
  | adoptContext library m h => exact .adoptContext hop m h
  | returnCode c =>
    exact .map (.bind (.field hg (known _ (.head _)) _ _ _ fun _ he => he.contextReturnCode)
      fun _ => .pure _)
  | errorType c =>
    exact .map (.bind (.field hg (known _ (.head _)) _ _ _ fun _ he => he.contextErrorType)
      fun _ => .pure _)
  | errorName c =>
    exact .bind (.field hg (known _ (.head _)) _ _ _ fun _ he => he.contextErrorName)
      fun _ => .pure _
  | errorMessage c =>
    exact .bind (.field hg (known _ (.head _)) _ _ _ fun _ he => he.contextErrorMessage)
      fun _ => .pure _
  | categoryNumber c =>
    exact .bind (.field hg (known _ (.head _)) _ _ _ fun _ he => he.contextCategoryNumber)
      fun _ => .pure _
  | categoryText c =>
    exact .bind (.field hg (known _ (.head _)) _ _ _ fun _ he => he.contextCategoryText)
      fun _ => .pure _
  | codeNumber c =>
    exact .bind (.field hg (known _ (.head _)) _ _ _ fun _ he => he.contextCodeNumber)
      fun _ => .pure _
  | structuredCode c =>
    exact .bind (.field hg (known _ (.head _)) _ _ _ fun _ he => he.contextStructuredCode)
      fun _ => .pure _
  | diagnostic c => exact .diagnostic hg (known _ (.head _))
  | adoptJob library m h converter => exact .adoptJob hop.1 m h hop.2
  | jobName j ctx => exact .name hg (known _ (.head _))
  | jobWait j ctx limit =>
    exact .read fun _ hb => .query hg _ _ fun c hc h m =>
      (Walks.library_job hg (known _ (.head _)) hb).jobWait c hc _ _ _ m
  | jobIsDone j ctx =>
    exact .read fun _ hb => .query hg _ _ fun c hc h m =>
      (Walks.library_job hg (known _ (.head _)) hb).jobIsDone c hc _ _ m
  | jobTake j ctx => exact .takeExpecting hg (known _ (.head _)) _ _
  | jobTakeFor j ctx limit => exact .takeExpecting hg (known _ (.head _)) _ _
  | jobTakeIfReady j ctx => exact .take? hg (known _ (.head _)) _
  | jobCancel j ctx =>
    exact .read fun _ hb => .query hg _ _ fun c hc h m =>
      (Walks.library_job hg (known _ (.head _)) hb).jobCancel c hc _ _ m
  | jobCancelFor j ctx limit =>
    exact .read fun _ hb => .query hg _ _ fun c hc h m =>
      (Walks.library_job hg (known _ (.head _)) hb).jobCancelFor c hc _ _ _ m
  | jobCancelAsync j ctx => exact .cancelAsync hg (known _ (.head _))
  | cancellationWait k ctx limit =>
    exact .read fun _ hb => .query hg _ _ fun c hc h m =>
      (Walks.library_cancellation hg (known _ (.head _)) hb).cancelJobWait c hc _ _ _ m
  | cancellationIsDone k ctx =>
    exact .read fun _ hb => .query hg _ _ fun c hc h m =>
      (Walks.library_cancellation hg (known _ (.head _)) hb).cancelJobIsDone c hc _ _ m
  | close o ctx => exact .closeObject (fun j hj => by subst hj; exact hg) (known _ (.head _))
  | drop o => exact .dropObject o
  | outside change => exact .outside hop
  | setUpLogger library filters file => exact .setUpLogger (hg.moves _ hop) filters file
  | setUpLoggerFrom library config =>
    rw [perform, Logger.setUpFrom]
    split
    · exact .pure _
    · exact .setUpLogger (hg.moves _ hop) _ _
  | setUpTracing =>
    refine .read fun _ _ => ?_
    split
    · exact .pure _
    · exact .read fun _ _ => .bind (.process _) fun _ => .bind (.remark _) fun _ => .pure _
  | load open? path => exact .loadAnnounced open? path
  | share open? config => exact .share open? config

end Operation

namespace Run

open Bridge

variable {b b' : Bridge σ}

/-- Is something true of every call of a run, at the bridge at which the call is made? -/
def All (P : {α : Type} → Bridge σ → Operation σ α → Prop) {b : Bridge σ} :
    {b' : Bridge σ} → Run b b' → Prop
  | _, done => True
  | _, @call _ _ b' _ run op _ => run.All P ∧ P b' op

theorem all {P : {α : Type} → Bridge σ → Operation σ α → Prop}
    (h : ∀ {α : Type} (b : Bridge σ) (op : Operation σ α), P b op) (run : Run b b') :
    run.All P := by
  induction run with
  | done => exact trivial
  | call run op known ih => exact ⟨ih, h _ op⟩

/-- **A run is a walk**, on the terms of what its calls bring along. -/
theorem walk {T : Terms σ} (run : Run b b')
    (hmoves : ∀ library, T.library library → library.entry.Moves (fun _ => True) T.moves)
    (hrun : run.All fun _ op => op.On T) (h : b.Served T) : Walk T b b' ∧ b'.Served T := by
  induction run with
  | done => exact ⟨.refl b, h⟩
  | call run op known ih =>
    obtain ⟨hwalk, hserved⟩ := ih hrun.1
    have hgrants : Bridge.Grants _ T (fun _ => True) op.context? :=
      ⟨hserved, hmoves, fun c hc => known _ (op.mem_objects_context? hc), fun _ _ => trivial⟩
    have hstep := op.walks known hrun.2 hgrants
    exact ⟨hwalk.trans hstep, hstep.served hserved⟩

/-- A run is a walk on no terms. -/
theorem walk_any (run : Run b b') (h : b.Served .any) : Walk .any b b' ∧ b'.Served .any :=
  run.walk (fun _ _ => EntryPoints.moves_any _ _) (run.all fun _ op => op.on_any) h

end Run

end HandleBridge
