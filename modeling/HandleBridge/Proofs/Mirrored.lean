import HandleBridge.Proofs.Guises
import HandleBridge.Proofs.Snapshots

/-!
# Proofs/Mirrored — every call is mirrored

One lemma for each call, from the lemmas of the calls that it is made of.  What a call names was
made before it (`Operation.Known`), so the objects and the handles that it uses are those of the
bridge at which it was made (`Bridge.Grants`), and the guise covers their library and their
disposal.  Two results may look different: where memory was taken, and how much a scope gives back.
-/

namespace HandleBridge

open HandleBridge.Action

variable {σ α β γ : Type}

/-- What a teardown tells but for the memory that it gave back. -/
def Teardown.weightless (t : Teardown) : Teardown := { t with bytes := 0 }

namespace Action.Mirrors

open Bridge

variable {G : Guise σ} {b₀ : Bridge σ} {look : α → γ}

/-! ## Texts in scratch memory -/

/-- A text is spelled or refused whatever the memory. -/
theorem agree_allocateText (c c' : Scratch) (m : Manager) (text : String) :
    Agree (·.1.unplaced) (c.allocateText m text) (c'.allocateText m text) := by
  rw [Scratch.allocateText, Scratch.allocateText]
  split
  · exact .ok rfl
  · exact .error _

theorem agree_allocateTexts (m : Manager) (texts : List String) (c c' : Scratch) :
    Agree List.length (c.allocateTexts m texts).1 (c'.allocateTexts m texts).1 := by
  induction texts generalizing c c' with
  | nil => exact .ok rfl
  | cons text rest ih =>
    rw [Scratch.allocateTexts, Scratch.allocateTexts]
    have htext := agree_allocateText c c' m text
    generalize c.allocateText m text = r, c'.allocateText m text = r' at htext
    cases htext with
    | error e => exact .error e
    | @ok a a' h =>
      obtain ⟨b, d⟩ := a
      obtain ⟨b', d'⟩ := a'
      have hrest := ih d d'
      dsimp only
      generalize d.allocateTexts m rest = y, d'.allocateTexts m rest = y' at hrest
      obtain ⟨r, d⟩ := y
      obtain ⟨r', d'⟩ := y'
      cases hrest with
      | @ok starts starts' h => exact .ok (congrArg Nat.succ h)
      | error e => exact .error e

theorem agree_take (content : Content) (m : Manager) (c c' : Scratch) :
    Agree Buffer.unplaced (content.take m c).1 (content.take m c').1 := by
  cases content with
  | cells taken | handles taken => exact .ok rfl
  | text text =>
    have htext := agree_allocateText c c' m text
    rw [Content.take, Content.take]
    generalize c.allocateText m text = r, c'.allocateText m text = r' at htext
    cases htext with
    | ok h => exact .ok h
    | error e => exact .error e
  | texts texts =>
    have htexts := agree_allocateTexts m texts c c'
    rw [Content.take, Content.take]
    generalize c.allocateTexts m texts = y, c'.allocateTexts m texts = y' at htexts
    obtain ⟨r, d⟩ := y
    obtain ⟨r', d'⟩ := y'
    cases htexts with
    | @ok starts starts' h =>
      refine .ok (congrArg (Buffer.mk m 0) ?_)
      change (starts'.map Cell.place).length = (starts.map Cell.place).length
      rw [List.length_map, List.length_map, h]
    | error e => exact .error e

theorem allocateContent (m : Manager) (content : Content) :
    (Operation.allocateContent m content >>= Manager.handOut : Action σ Buffer).Mirrors G b₀
      Buffer.unplaced (Operation.allocateContent m content >>= Manager.handOut) := by
  refine handOut (.allocateContent m content) ?_
  rw [content.allocateContent_eq]
  exact allocating m (content.carved_take m) (agree_take content m)

/-! ## Contexts -/

section Contexts

variable {X : Context} (hg : b₀.Grants G.terms G.given (some X))

include hg

theorem field (symbol : Symbol) (initial : Cell) (cell : α → Cell)
    {getter : EntryPoints σ → Option Handle → Bool → Call σ α}
    (hgetter : ∀ e, G.Covers e → ∀ c, G.given c → ∀ out, G.Unseen (getter e c out)) :
    (X.field symbol initial cell getter).Mirrors G b₀ id
      (X.field symbol initial cell getter) := by
  have hX := hg.has X rfl
  refine read (fun _ _ h => h.context X) fun s hs => ?_
  rw [hs.remains.context X hX]
  refine bind (allocateFrom _ rfl) fun out out' _ => withHandle _ fun s hs hopen => ?_
  have hunseen := hgetter _ (hg.served _ hX).1 _ (hg.given_handle hs hopen) true
  refine next (invokeInto out out' _ _ _ hunseen) fun answer => ?_
  split
  · exact pure _
  · split
    · exact pure _
    · exact fail _

theorem unsignedField (symbol : Symbol)
    {getter : EntryPoints σ → Option Handle → Bool → Call σ (Option UInt32)}
    (hgetter : ∀ e, G.Covers e → ∀ c, G.given c → ∀ out, G.Unseen (getter e c out)) :
    (X.unsignedField symbol getter).Mirrors G b₀ id (X.unsignedField symbol getter) :=
  next (field hg symbol _ _ hgetter) fun _ => pure _

theorem signedField (symbol : Symbol)
    {getter : EntryPoints σ → Option Handle → Bool → Call σ (Option Int32)}
    (hgetter : ∀ e, G.Covers e → ∀ c, G.given c → ∀ out, G.Unseen (getter e c out)) :
    (X.signedField symbol getter).Mirrors G b₀ id (X.signedField symbol getter) :=
  next (field hg symbol _ _ hgetter) fun _ => pure _

theorem textField (symbol : Symbol)
    {getter : EntryPoints σ → Option Handle → Bool → Call σ (Option StringOut)}
    (hgetter : ∀ e, G.Covers e → ∀ c, G.given c → ∀ out, G.Unseen (getter e c out)) :
    (X.textField symbol getter).Mirrors G b₀ id (X.textField symbol getter) :=
  next (field hg symbol _ _ hgetter) fun _ => pure _

theorem diagnostic :
    (X.diagnostic : Action σ Diagnostic).Mirrors G b₀ id X.diagnostic := by
  have hX := hg.has X rfl
  refine read (fun _ _ h => h.context X) fun s hs => ?_
  rw [hs.remains.context X hX]
  refine withHandle _ fun s hs hopen => ?_
  have hcovers := (hg.served _ hX).1
  have hgiven := hg.given_handle hs hopen
  refine next (invoke _ _ (hcovers.contextReturnCode _ hgiven _)) fun answer => ?_
  split
  · exact readDiagnostic hcovers hgiven _
  · exact fail _

end Contexts

/-! ## Adoption -/

theorem adopt (m : Manager) (h : Handle) {kind : Kind} {releaser : Releaser σ}
    (hr : G.terms.Releases kind releaser) :
    (Resource.adopt m h kind releaser).Mirrors G b₀ id (Resource.adopt m h kind releaser) := by
  refine ⟨.adopt m h hr, fun s p _ hm => ?_⟩
  have hclosed := hm.closed m
  cases hopen : (s.manager m).closed with
  | true =>
    rw [Resource.adopt_of_closed hopen, Resource.adopt_of_closed (hclosed.trans hopen)]
    exact ⟨.error _, (hm.reject m h hr).tell _⟩
  | false =>
    rw [Resource.adopt_of_open hopen, Resource.adopt_of_open (hclosed.trans hopen), hm.nextId]
    exact ⟨.ok hm.next, (hm.accept m h kind releaser).remarked _⟩

/-- What a new resource is wrapped in. -/
theorem adopting (m : Manager) (h : Handle) {kind : Kind} {releaser : Releaser σ}
    (hr : G.terms.Releases kind releaser) {f : Resource → Action σ α}
    (hwalks : (Resource.adopt m h kind releaser >>= f).Walks G.terms b₀)
    (hf : ∀ r s p, s.Matches G p → Abreast G id (f r s) (f r p)) :
    (Resource.adopt m h kind releaser >>= f).Mirrors G b₀ id
      (Resource.adopt m h kind releaser >>= f) := by
  refine ⟨hwalks, fun s p hs hm => ?_⟩
  refine ((adopt m h hr).abreast s p hs hm).bind fun r r' s₁ p₁ _ heq h₁ => ?_
  obtain rfl : r' = r := heq
  exact hf r' s₁ p₁ h₁

theorem adoptContext {library : Library σ} (hl : G.Covers library.entry) (m : Manager)
    (h : Handle) :
    (Context.adopt library m h).Mirrors G b₀ id (Context.adopt library m h) :=
  adopting m h (.context hl) (.adoptContext hl m h) fun _ _ _ hm =>
    ⟨.ok (congrArg (fun t => Context.mk t.size) hm.contexts), hm.addContext _⟩

theorem adoptJob {library : Library σ} (hl : G.Covers library.entry) (m : Manager) (h : Handle)
    {converter : Converter σ} (hc : G.terms.Converts converter) :
    (Job.adopt library m h converter).Mirrors G b₀ id (Job.adopt library m h converter) :=
  adopting m h (.job hl) (.adoptJob hl m h hc) fun _ _ _ hm =>
    ⟨.ok (congrArg (fun t => Job.mk t.size) hm.jobs), hm.addJob _⟩

theorem adoptCancellation {library : Library σ} (hl : G.Covers library.entry) (m : Manager)
    (h : Handle) :
    (Cancellation.adopt library m h).Mirrors G b₀ id (Cancellation.adopt library m h) :=
  adopting m h (.cancellation hl) (.adoptCancellation hl m h) fun _ _ _ hm =>
    ⟨.ok (congrArg (fun t => Cancellation.mk t.size) hm.cancellations), hm.addCancellation _⟩

theorem createContext {library : Library σ} (hl : G.Covers library.entry) (m : Manager) :
    (Context.create library m).Mirrors G b₀ id (Context.create library m) := by
  refine bind (allocate m rfl) fun out out' _ =>
    next (invokeInto out out' _ _ _ (hl.contextCreate _)) fun answer => ?_
  split
  · split
    · exact adoptContext hl m _
    · exact fail _
  · exact fail _

/-! ## Jobs -/

section Jobs

variable {ctx : Option Context} {j : Job} (hg : b₀.Grants G.terms G.given ctx)
  (hj : b₀.Has (.job j))

include hg hj

theorem covers_job {s : Bridge σ} (hs : Walk G.terms b₀ s) : G.Covers (s.job j).library.entry :=
  (Walks.serves_job hg hj hs).1.1

theorem name : (j.name ctx : Action σ String).Mirrors G b₀ id (j.name ctx) := by
  refine read (fun _ _ h => h.job j) fun _ _ => ?_
  split
  · exact pure _
  refine read (fun _ _ h => h.job j) fun s hs => bind (allocateFrom _ rfl) fun out out' _ => ?_
  refine next (withHandle _ fun _ _ _ => callNative hg _ fun c hc =>
    invokeInto out out' _ _ _ ((covers_job hg hj hs).jobName c hc _ _)) fun name => ?_
  exact next (step (fun s _ => .still (.remember s j _) rfl (.of_eq rfl rfl))
    fun _ _ h => h.modifyJob j _) fun _ => pure _

theorem label : (j.label ctx : Action σ String).Mirrors G b₀ id (j.label ctx) := by
  refine attempt_next (name hg hj) fun r => ?_
  split <;> exact pure _

theorem takeOnce (mode : TakeMode) :
    (j.takeOnce ctx mode : Action σ _).Mirrors G b₀ id (j.takeOnce ctx mode) := by
  refine read (fun _ _ h => h.job j) fun s hs => read (fun _ _ h => h.resource _) fun _ _ => ?_
  refine bind (allocate _ rfl) fun valueOut valueOut' _ => bind (allocate _ rfl)
    fun readyOut readyOut' _ => withHandle _ fun _ _ _ => ?_
  have hl := covers_job hg hj hs
  split
  · exact pure _
  · refine next ?_ fun answer => ?_
    · cases mode with
      | blocking =>
        exact map (callNative hg _ fun c hc => invokeInto _ _ _ _ _ (hl.jobTake c hc _ _))
      | bounded limit =>
        exact map (callNative hg _ fun c hc => invokeInto _ _ _ _ _ (hl.jobTakeFor c hc _ _ _))
      | ifReady =>
        refine next (callNative hg _ fun c hc => ?_) fun _ => pure _
        exact next (invoke _ _ (hl.jobTakeIfReady c hc _ _ _)) fun _ =>
          next (put _ _ _ _ _ _) fun _ => next (put _ _ _ _ _ _) fun _ => pure _
    · split
      · exact pure _
      · exact next (step (fun s _ => .take s j) fun _ _ h => h.modifyJob j _) fun _ => pure _

theorem convert (value : TakenValue) :
    (j.convert value : Action σ Yield).Mirrors G b₀ id (j.convert value) := by
  refine next (step (fun s _ => .convert s j _) fun _ _ h => h.note _) fun _ =>
    read (fun _ _ h => h.job j) fun s hs => ?_
  have hconverts := (Walks.serves_job hg hj hs).1.2
  have habandon : (value.abandon : Action σ Unit).Mirrors G b₀ id value.abandon := by
    rw [TakenValue.abandon]
    split
    · exact remark _
    · exact pure _
  generalize (s.job j).converter = converter at hconverts
  cases converter with
  | void => exact next habandon fun _ => pure _
  | inspect => exact next habandon fun _ => pure _
  | reject e => exact next habandon fun _ => fail _
  | adopt kind dispose failure =>
    rw [TakenValue.convert]
    split
    · exact fail _
    · exact next (adopt _ _ (.value hconverts kind failure)) fun _ => pure _

theorem take? (mode : TakeMode) :
    (j.take? ctx mode : Action σ _).Mirrors G b₀ id (j.take? ctx mode) := by
  refine read (fun _ _ h => h.job j) fun _ _ => read (fun _ _ h => h.resource _) fun _ _ => ?_
  refine next (takeOnce hg hj mode) fun answer => ?_
  cases answer with
  | alreadyTaken => exact next (label hg hj) fun _ => fail _
  | notReady => exact next (remark _) fun _ => pure _
  | taken value =>
    exact next (remark _) fun _ => next (label hg hj) fun _ => map (convert hg hj _)

theorem takeExpecting (symbol : Symbol) (mode : TakeMode) :
    (Job.takeExpecting symbol (j.take? ctx mode) : Action σ Yield).Mirrors G b₀ id
      (Job.takeExpecting symbol (j.take? ctx mode)) := by
  refine next (take? hg hj mode) fun answer => ?_
  split
  · exact pure _
  · exact fail _

theorem cancelAsync :
    (j.cancelAsync ctx : Action σ _).Mirrors G b₀ id (j.cancelAsync ctx) := by
  refine read (fun _ _ h => h.job j) fun s hs => read (fun _ _ h => h.resource _) fun _ _ => ?_
  have hl := covers_job hg hj hs
  refine bind (allocate _ rfl) fun out out' _ => next (withHandle _ fun _ _ _ =>
    callNative hg _ fun c hc => invokeInto out out' _ _ _ (hl.jobCancelAsync c hc _ _))
      fun tracker => ?_
  split
  · exact pure _
  · exact map (adoptCancellation hl _ _)

end Jobs

theorem covers_cancellation {ctx : Option Context} {k : Cancellation}
    (hg : b₀.Grants G.terms G.given ctx) (hk : b₀.Has (.cancellation k)) {s : Bridge σ}
    (hs : Walk G.terms b₀ s) : G.Covers (s.cancellation k).library.entry :=
  (hs.remains.serves hk (hg.served _ hk)).1

/-! ## Closing -/

section Closing

variable (hserved : b₀.Served G.terms)

include hserved

theorem release (r : Resource) : (r.release : Action σ Bool).Mirrors G b₀ id r.release := by
  refine ⟨.release r, fun s p hs h => ?_⟩
  have hresource := h.resource r
  cases hopen : (s.resource r).closed with
  | true =>
    rw [Resource.release_of_closed hopen,
      Resource.release_of_closed ((congrArg (·.closed) hresource).trans hopen)]
    exact ⟨.ok rfl, h⟩
  | false =>
    have hkeeps := G.keeps_releaser (hs.served hserved (.resource r) (has_of_open hopen))
      (s.resource r).handle
    rw [Resource.release_of_open hopen,
      Resource.release_of_open ((congrArg (·.closed) hresource).trans hopen),
      Resource.releasedRemark, Resource.releasedRemark, (h.settle hkeeps).clock, hresource]
    exact ⟨.refl id _, (h.retire hkeeps).remarked _⟩

theorem close (r : Resource) : (r.close : Action σ Unit).Mirrors G b₀ id r.close :=
  next (release hserved r) fun _ => pure _

theorem drop (r : Resource) : (r.drop : Action σ Unit).Mirrors G b₀ id r.drop := by
  refine read (fun _ _ h => h.resource r) fun _ _ =>
    attempt_next (release hserved r) fun result => ?_
  split
  · exact remark _
  · exact pure _
  · exact remark _

theorem releaseAll (registry : Registry) (outcome : Teardown) (failures : List Failure) :
    (Manager.releaseAll registry outcome failures : Action σ _).Mirrors G b₀ id
      (Manager.releaseAll registry outcome failures) := by
  induction registry generalizing outcome failures with
  | nil => exact pure _
  | cons entry rest ih =>
    refine read (fun _ _ h => h.resource _) fun _ _ =>
      attempt_next (release hserved entry.2) fun result => ?_
    split
    · exact ih _ _
    · exact ih _ _
    · exact next (remark _) fun _ => ih _ _

theorem closeManager (m : Manager) :
    (m.close : Action σ Teardown).Mirrors G b₀ Teardown.weightless m.close := by
  refine read_look Manager.State.outline (fun _ _ h => h.outline m) fun s a' _ ha => ?_
  have hregistry : a'.registry = (s.manager m).registry :=
    show a'.outline.registry = _ from ha ▸ rfl
  have hclosed : a'.closed = (s.manager m).closed := by
    rw [← Manager.State.closed_outline, ha, Manager.State.closed_outline]
  rw [hregistry, hclosed]
  split
  · exact pure _
  refine next (step (fun s _ => .shut s m) fun _ _ h => h.shut m) fun _ =>
    next clock fun _ => next (releaseAll hserved _ _ _) fun _ => next clock fun _ =>
    next (step (fun s _ => .handBack s m) fun _ _ h => h.handBack m) fun _ =>
    next (remark _) fun _ => next (remark? _) fun _ => next (.ofFailure _) fun _ => ?_
  exact pure_look rfl

theorem dropManager (m : Manager) : (m.drop : Action σ Unit).Mirrors G b₀ id m.drop := by
  refine ⟨.dropManager m, fun s p hs h => ?_⟩
  rw [Manager.drop, bind_of_ok (read_apply _ _), bind_of_ok (read_apply _ _), h.closed]
  have hforsake {s p : Bridge σ} (h : s.Matches G p) :
      (s.modifyManager m (·.forsake)).Matches G (p.modifyManager m (·.forsake)) :=
    h.modifyManager m fun _ => rfl
  split
  · exact ⟨.ok rfl, hforsake h⟩
  · obtain ⟨hresult, hbridge⟩ := (closeManager hserved m).abreast s p hs h
    rw [bind_of_ok (attempt_apply _ _), bind_of_ok (attempt_apply _ _)]
    generalize m.close s = x, m.close p = x' at hresult hbridge
    obtain ⟨r, s₁⟩ := x
    obtain ⟨r', p₁⟩ := x'
    cases hresult with
    | error e => exact ⟨.ok rfl, hforsake (hbridge.remarked _)⟩
    | @ok outcome outcome' heq =>
      have hdisposed : outcome'.disposed = outcome.disposed :=
        (congrArg Teardown.disposed heq :)
      dsimp only
      rw [hdisposed]
      split
      · exact ⟨.ok rfl, hforsake (hbridge.remarked _)⟩
      · exact ⟨.ok rfl, hforsake hbridge⟩

theorem closeJob {ctx : Option Context} {j : Job} (hg : b₀.Grants G.terms G.given ctx)
    (hj : b₀.Has (.job j)) : (j.close ctx : Action σ Unit).Mirrors G b₀ id (j.close ctx) := by
  refine read (fun _ _ h => h.job j) fun s hs => read (fun _ _ h => h.resource _) fun _ _ => ?_
  split
  · exact pure _
  · refine attempt_next (withHandle _ fun _ _ _ => callNative hg _ fun c hc =>
      invoke _ _ ((covers_job hg hj hs).jobClose c hc _)) fun _ => ?_
    exact attempt_next (close hserved _) fun _ => next (.ofExcept _) fun _ => .ofExcept _

theorem closeObject {ctx : Option Context} {o : Object}
    (hg : ∀ j, o = .job j → b₀.Grants G.terms G.given ctx) (ho : b₀.Has o) :
    (Operation.closeObject ctx o : Action σ Unit).Mirrors G b₀ id
      (Operation.closeObject ctx o) := by
  cases o with
  | manager m => exact bind (closeManager hserved m) fun _ _ _ => pure _
  | resource r => exact close hserved r
  | context c =>
    exact read (fun _ _ h => congrArg Context.State.resource (h.context c)) fun _ _ =>
      close hserved _
  | job j => exact closeJob hserved (hg j rfl) ho
  | cancellation c =>
    exact read (fun _ _ h => congrArg Cancellation.State.resource (h.cancellation c)) fun _ _ =>
      close hserved _

theorem dropObject (o : Object) :
    (Operation.dropObject o : Action σ Unit).Mirrors G b₀ id (Operation.dropObject o) := by
  cases o with
  | manager m => exact dropManager hserved m
  | resource r => exact drop hserved r
  | context c =>
    exact read (fun _ _ h => congrArg Context.State.resource (h.context c)) fun _ _ =>
      drop hserved _
  | job j =>
    exact read (fun _ _ h => congrArg Job.State.resource (h.job j)) fun _ _ => drop hserved _
  | cancellation c =>
    exact read (fun _ _ h => congrArg Cancellation.State.resource (h.cancellation c)) fun _ _ =>
      drop hserved _

end Closing

/-! ## Registries and the process -/

theorem createManager (capacity : Nat) :
    (Manager.create capacity : Action σ _).Mirrors G b₀ id (Manager.create capacity) := by
  rw [Manager.create]
  split
  · exact pure _
  · exact read (fun _ _ h => h.managers) fun _ _ =>
      next (step (fun s _ => .create s _) fun _ _ h => h.addManager _) fun _ =>
      next (remark _) fun _ => pure _

theorem register (m : Manager) (r : Resource) :
    (m.register r : Action σ Unit).Mirrors G b₀ id (m.register r) := by
  refine ⟨.register m r, fun s p hs h => ?_⟩
  have hdropped (m : Manager) : (p.manager m).dropped = (s.manager m).dropped :=
    show (p.manager m).outline.dropped = _ from h.outline m ▸ rfl
  rw [Manager.register, bind_of_ok (read_apply _ _), bind_of_ok (read_apply _ _),
    bind_of_ok (read_apply _ _), bind_of_ok (read_apply _ _), h.resource, hdropped]
  split
  · exact ⟨.error _, h⟩
  split
  · exact ⟨.error _, h⟩
  split
  · exact ⟨.error _, h⟩
  rw [bind_of_ok (read_apply _ _), bind_of_ok (read_apply _ _), h.closed]
  split
  · exact ⟨.error _, h⟩
  · exact ⟨.ok rfl, h.modifyManager m fun _ => rfl⟩

theorem deregister (m : Manager) (r : Resource) :
    (m.deregister r : Action σ Bool).Mirrors G b₀ id (m.deregister r) := by
  refine ⟨.deregister m r, fun s p hs h => ?_⟩
  rw [m.deregister_apply, m.deregister_apply, h.registry, h.resource]
  refine ⟨.ok rfl, ?_⟩
  dsimp only
  split
  · exact (h.modifyManager m (f := (·.withdraw (s.resource r).id)) fun _ => rfl).remarked _
  · exact h

/-- What belongs to the process changes alike. -/
theorem process {f f' : Process σ → Process σ}
    (hlatch : ∀ a, G.latch a.loggerInitialized → G.latch (f a).loggerInitialized)
    (hf : ∀ a a', a'.timeless = a.timeless → (f' a').timeless = (f a).timeless) :
    (Action.update (·.modifyProcess f) : Action σ Unit).Mirrors G b₀ id
      (Action.update (·.modifyProcess f')) :=
  step (fun s _ => .still (.modifyProcess s f) rfl (.of_eq rfl rfl)) fun _ _ h =>
    h.modifyProcess (hlatch _ h.latch) (hf _ _ h.process)

theorem setUpLogger {library : Library σ}
    (hl : ∀ filters file, G.Unseen (library.entry.loggerInit filters file))
    (hlatch : G.latch true) (filters : String) (file : Option String) :
    (Logger.setUp library filters file).Mirrors G b₀ id (Logger.setUp library filters file) := by
  refine read_look Process.timeless (fun _ _ h => h.process) fun s a' _ ha => ?_
  have hflag : a'.loggerInitialized = s.process.loggerInitialized :=
    show a'.timeless.loggerInitialized = _ from ha ▸ rfl
  rw [hflag]
  split
  · exact next (remark _) fun _ => pure _
  refine next ?_ fun _ => next (process (fun _ _ => hlatch) fun a a' ha => ?_) fun _ => pure _
  · refine next (.ofExcept _) fun _ => next (.ofExcept _) fun _ =>
      next (invoke _ _ (hl _ _)) fun answer => ?_
    split
    · exact remark _
    · exact fail _
  · exact congrArg (fun p : Process σ => { p with loggerInitialized := true }) ha

theorem setUpTracing : (Tracing.setUp : Action σ Bool).Mirrors G b₀ id Tracing.setUp := by
  refine read_look Process.timeless (fun _ _ h => h.process) fun s a' _ ha => ?_
  have htrace : a'.trace.isSome = s.process.trace.isSome := by
    have hsince := congrArg (fun p : Process σ => p.trace.isSome) ha
    simpa [Process.timeless] using hsince
  have henvironment : a'.environment = s.process.environment :=
    show a'.timeless.environment = _ from ha ▸ rfl
  rw [htrace, henvironment]
  split
  · exact pure _
  refine read_look (fun _ => ()) (fun _ _ _ => rfl) fun _ _ _ _ => ?_
  refine next (process (fun _ h => h) fun a a' ha => ?_) fun _ =>
    next (remark _) fun _ => pure _
  let trace : Option Trace :=
    some ⟨Tracing.wantsJson s.process.environment, Tracing.threshold s.process.environment, 0⟩
  exact congrArg (fun p : Process σ => { p with trace }) ha

theorem loadAnnounced (open? : Loader σ) (path : String) :
    (Library.loadAnnounced open? path).Mirrors G b₀ id (Library.loadAnnounced open? path) :=
  next (.ofExcept _) fun _ => next (remark _) fun _ => pure _

theorem share (open? : Loader σ) (config : Config) :
    (Library.share open? config).Mirrors G b₀ id (Library.share open? config) := by
  refine read_look Process.timeless (fun _ _ h => h.process) fun s a' _ ha => ?_
  have hshared : a'.shared = s.process.shared := show a'.timeless.shared = _ from ha ▸ rfl
  have henvironment : a'.environment = s.process.environment :=
    show a'.timeless.environment = _ from ha ▸ rfl
  rw [hshared, henvironment]
  split
  · exact pure _
  · refine next (.ofExcept _) fun _ => next (loadAnnounced _ _) fun library =>
      next (process (fun _ h => h) fun a a' ha => ?_) fun _ => pure _
    exact congrArg (fun p : Process σ => { p with shared := some library }) ha

end Action.Mirrors

/-! ## Operations -/

namespace Operation

/-- Does a guise put up with what a call brings along? -/
def Admits (G : Guise σ) : {α : Type} → Operation σ α → Prop
  | _, createContext library _ | _, adoptContext library _ _ => G.Covers library.entry
  | _, adoptJob library _ _ converter => G.Covers library.entry ∧ G.terms.Converts converter
  | _, outside change => G.Keeps change
  | _, setUpLogger library _ _ | _, setUpLoggerFrom library _ =>
    G.latch true ∧ ∀ filters file, G.Unseen (library.entry.loggerInit filters file)
  | _, _ => True

/-- **The same call**, but for what is written to scratch memory and where. -/
inductive Like : {α : Type} → Operation σ α → Operation σ α → Prop where
  | same {α : Type} (op : Operation σ α) : Like op op
  | write (b b' : Buffer) (offset offset' : Nat) (cell cell' : Cell) :
    Like (.write b offset cell) (.write b' offset' cell')
  | dropBuffer (b b' : Buffer) : Like (.dropBuffer b) (.dropBuffer b')
  | allocate (m : Manager) {cells cells' : List Cell} (h : cells'.length = cells.length) :
    Like (.allocate m (.cells cells)) (.allocate m (.cells cells'))
  | allocateFrom (r : Resource) {cells cells' : List Cell} (h : cells'.length = cells.length) :
    Like (.allocateFrom r cells) (.allocateFrom r cells')

/-- What a result tells but for scratch memory: where it was taken, and how much was given back. -/
def look : {α : Type} → Operation σ α → α → α
  | _, closeManager _, t => t.weightless
  | _, allocate _ _, b => b.unplaced
  | _, allocateFrom _ _, b => b.unplaced
  | _, _, a => a

open Bridge Mirrors

/-- **Every call is mirrored** that the guise puts up with, if it uses only contexts that may be
passed. -/
theorem mirrors {G : Guise σ} {b : Bridge σ} {op op' : Operation σ α} (hlike : op.Like op')
    (known : op.Known b) (hop : op.Admits G) (hg : b.Grants G.terms G.given op.context?)
    (hr : b.Grants G.terms G.given op.reads) :
    op.perform.Mirrors G b op.look op'.perform := by
  have hserved := hg.served
  cases hlike with
  | write => exact put _ _ _ _ _ _
  | dropBuffer b b' => exact step (fun s _ => .letGo s b) fun _ _ h => h.letGo b b'
  | @allocate m cells _ h => exact handOut (.allocateContent m (.cells cells)) (.allocate m h)
  | @allocateFrom r cells _ h => exact handOut (.allocateHeld r cells) (.allocateFrom r h)
  | same =>
    cases op with
    | createManager capacity => exact Mirrors.createManager capacity
    | closeManager m => exact Mirrors.closeManager hserved m
    | register m r => exact Mirrors.register m r
    | deregister m r => exact Mirrors.deregister m r
    | allocate m content => exact Mirrors.allocateContent m content
    | allocateFrom r cells => exact handOut (.allocateHeld r cells) (.allocateFrom r rfl)
    | dropBuffer b => exact step (fun s _ => .letGo s b) fun _ _ h => h.letGo b b
    | write b offset cell => exact put _ _ _ _ _ _
    | adopt m h kind pause failure => exact Mirrors.adopt m h (.scripted kind pause failure)
    | handle r => exact withHandle r fun _ _ _ => pure _
    | createContext library m => exact Mirrors.createContext hop m
    | adoptContext library m h => exact Mirrors.adoptContext hop m h
    | returnCode c => exact map (unsignedField hr _ fun _ he => he.contextReturnCode)
    | errorType c => exact map (unsignedField hr _ fun _ he => he.contextErrorType)
    | errorName c => exact textField hr _ fun _ he => he.contextErrorName
    | errorMessage c => exact textField hr _ fun _ he => he.contextErrorMessage
    | categoryNumber c => exact signedField hr _ fun _ he => he.contextCategoryNumber
    | categoryText c => exact textField hr _ fun _ he => he.contextCategoryText
    | codeNumber c => exact signedField hr _ fun _ he => he.contextCodeNumber
    | structuredCode c => exact textField hr _ fun _ he => he.contextStructuredCode
    | diagnostic c => exact Mirrors.diagnostic hr
    | adoptJob library m h converter => exact Mirrors.adoptJob hop.1 m h hop.2
    | jobName j ctx => exact Mirrors.name hg (known _ (.head _))
    | jobWait j ctx limit =>
      exact read (fun _ _ h => h.job j) fun _ hs => query hg _ _ fun c hc h =>
        (covers_job hg (known _ (.head _)) hs).jobWait c hc h _ _
    | jobIsDone j ctx =>
      exact read (fun _ _ h => h.job j) fun _ hs => query hg _ _ fun c hc h =>
        (covers_job hg (known _ (.head _)) hs).jobIsDone c hc h _
    | jobTake j ctx => exact takeExpecting hg (known _ (.head _)) _ _
    | jobTakeFor j ctx limit => exact takeExpecting hg (known _ (.head _)) _ _
    | jobTakeIfReady j ctx => exact Mirrors.take? hg (known _ (.head _)) _
    | jobCancel j ctx =>
      exact read (fun _ _ h => h.job j) fun _ hs => query hg _ _ fun c hc h =>
        (covers_job hg (known _ (.head _)) hs).jobCancel c hc h _
    | jobCancelFor j ctx limit =>
      exact read (fun _ _ h => h.job j) fun _ hs => query hg _ _ fun c hc h =>
        (covers_job hg (known _ (.head _)) hs).jobCancelFor c hc h _ _
    | jobCancelAsync j ctx => exact cancelAsync hg (known _ (.head _))
    | cancellationWait k ctx limit =>
      exact read (fun _ _ h => h.cancellation k) fun _ hs => query hg _ _ fun c hc h =>
        (covers_cancellation hg (known _ (.head _)) hs).cancelJobWait c hc h _ _
    | cancellationIsDone k ctx =>
      exact read (fun _ _ h => h.cancellation k) fun _ hs => query hg _ _ fun c hc h =>
        (covers_cancellation hg (known _ (.head _)) hs).cancelJobIsDone c hc h _
    | close o ctx =>
      exact Mirrors.closeObject hserved (fun j hj => by subst hj; exact hg) (known _ (.head _))
    | drop o => exact Mirrors.dropObject hserved o
    | outside change => exact Mirrors.outside hop
    | setUpLogger library filters file => exact Mirrors.setUpLogger hop.2 hop.1 filters file
    | setUpLoggerFrom library config =>
      rw [perform, Logger.setUpFrom]
      split
      · exact pure _
      · exact Mirrors.setUpLogger hop.2 hop.1 _ _
    | setUpTracing => exact Mirrors.setUpTracing
    | load open? path => exact Mirrors.loadAnnounced open? path
    | share open? config => exact Mirrors.share open? config

end Operation

end HandleBridge
