import HandleBridge.Proofs.Walks

/-!
# Proofs/Guises — two bridges that nothing but a guise tells apart

Two processes run side by side, and the machine of the second looks like that of the first in a
guise.  Bridges match (`Bridge.Matches`) if they are the same otherwise, but for scratch memory and
the sizes of regions, which no call ever looks at, and for the journal so far.  A call is mirrored
(`Action.Mirrors`) if from matching bridges it comes to the same result and to bridges that match
again; that is so as soon as no entry point sees through the guise.  A guise also says what holds of
the first process all along, so with a guise that hides nothing, to match is to keep an invariant.
-/

namespace HandleBridge

open HandleBridge.Action

variable {σ α β γ δ : Type}

/-! ## Guises -/

/-- **A guise**: how the second machine looks next to the first, and what holds all along. -/
structure Guise (σ : Type) where
  machine : Machine σ → Machine σ
  /-- What holds of the first machine. -/
  holds : Machine σ → Prop
  /-- What holds of the logger's flag. -/
  latch : Bool → Prop
  /-- What may be passed for a context. -/
  given : Option Handle → Prop
  /-- The journal of the first process at the outset. -/
  said : List Event
  /-- The journal of the second process at the outset. -/
  said' : List Event
  machine_clock : ∀ m clock, machine { m with clock } = { machine m with clock }
  holds_clock : ∀ m clock, holds m → holds { m with clock }

namespace Guise

variable (G : Guise σ)

theorem clock (m : Machine σ) : (G.machine m).clock = m.clock :=
  (congrArg Machine.clock (G.machine_clock m m.clock) :)

/-- Does a call not see through the guise? -/
def Unseen (call : Call σ α) : Prop :=
  ∀ m, G.holds m →
    call (G.machine m) = ((call m).1, G.machine (call m).2) ∧ G.holds (call m).2

/-- Does a change of the machine leave the guise as it is? -/
def Keeps (f : Machine σ → Machine σ) : Prop :=
  ∀ m, G.holds m → f (G.machine m) = G.machine (f m) ∧ G.holds (f m)

/-- **Does no entry point see through the guise**, for contexts that may be passed?  The logger is
left out. -/
structure Covers (e : EntryPoints σ) : Prop where
  contextCreate : ∀ out, G.Unseen (e.contextCreate out)
  contextReturnCode : ∀ c, G.given c → ∀ out, G.Unseen (e.contextReturnCode c out)
  contextErrorName : ∀ c, G.given c → ∀ out, G.Unseen (e.contextErrorName c out)
  contextErrorType : ∀ c, G.given c → ∀ out, G.Unseen (e.contextErrorType c out)
  contextErrorMessage : ∀ c, G.given c → ∀ out, G.Unseen (e.contextErrorMessage c out)
  contextCategoryNumber : ∀ c, G.given c → ∀ out, G.Unseen (e.contextCategoryNumber c out)
  contextCategoryText : ∀ c, G.given c → ∀ out, G.Unseen (e.contextCategoryText c out)
  contextCodeNumber : ∀ c, G.given c → ∀ out, G.Unseen (e.contextCodeNumber c out)
  contextStructuredCode : ∀ c, G.given c → ∀ out, G.Unseen (e.contextStructuredCode c out)
  contextDispose : ∀ h, G.Keeps (e.contextDispose h)
  cancelJobWait : ∀ c, G.given c → ∀ h limit out, G.Unseen (e.cancelJobWait c h limit out)
  cancelJobIsDone : ∀ c, G.given c → ∀ h out, G.Unseen (e.cancelJobIsDone c h out)
  cancelJobDispose : ∀ h, G.Keeps (e.cancelJobDispose h)
  jobName : ∀ c, G.given c → ∀ h out, G.Unseen (e.jobName c h out)
  jobWait : ∀ c, G.given c → ∀ h limit out, G.Unseen (e.jobWait c h limit out)
  jobIsDone : ∀ c, G.given c → ∀ h out, G.Unseen (e.jobIsDone c h out)
  jobTake : ∀ c, G.given c → ∀ h out, G.Unseen (e.jobTake c h out)
  jobTakeFor : ∀ c, G.given c → ∀ h limit out, G.Unseen (e.jobTakeFor c h limit out)
  jobTakeIfReady :
    ∀ c, G.given c → ∀ h out valueOut, G.Unseen (e.jobTakeIfReady c h out valueOut)
  jobCancel : ∀ c, G.given c → ∀ h out, G.Unseen (e.jobCancel c h out)
  jobCancelFor : ∀ c, G.given c → ∀ h limit out, G.Unseen (e.jobCancelFor c h limit out)
  jobCancelAsync : ∀ c, G.given c → ∀ h out, G.Unseen (e.jobCancelAsync c h out)
  jobClose : ∀ c, G.given c → ∀ h, G.Unseen (e.jobClose c h)
  jobDispose : ∀ h, G.Keeps (e.jobDispose h)

/-- The terms on which nobody sees through the guise. -/
def terms : Terms σ :=
  ⟨fun _ _ _ => True, fun _ _ => True, fun library => G.Covers library.entry,
    fun dispose => ∀ h, G.Keeps (dispose h)⟩

theorem moves (e : EntryPoints σ) : e.Moves G.given G.terms.moves := by
  constructor <;> intros <;> exact trivial

/-- On these terms a release action leaves the guise as it is. -/
theorem keeps_releaser {kind : Kind} {releaser : Releaser σ} (h : G.terms.Releases kind releaser)
    (handle : Handle) : G.Keeps fun m => releaser.run handle m := by
  cases h with
  | scripted kind pause failure =>
    intro m hm
    refine ⟨?_, G.holds_clock m _ hm⟩
    change { G.machine m with clock := (G.machine m).clock + pause } = _
    rw [G.clock]
    exact (G.machine_clock m _).symm
  | context h => exact h.contextDispose _
  | job h => exact h.jobDispose _
  | cancellation h => exact h.cancelJobDispose _
  | value h kind failure => exact h handle

end Guise

/-! ## Bridges that match -/

/-- The process but for where its trace begins. -/
def Process.timeless (p : Process σ) : Process σ :=
  { p with trace := p.trace.map fun t => { t with since := 0 } }

/-- **The same bridge but for a guise**, for scratch memory and for the sizes of regions, with the
same events since the outset. -/
structure Bridge.Matches (G : Guise σ) (s p : Bridge σ) : Prop where
  machine : p.machine = G.machine s.machine
  holds : G.holds s.machine
  latch : G.latch s.process.loggerInitialized
  managers : p.managers.size = s.managers.size
  outline : ∀ m, (p.manager m).outline = (s.manager m).outline
  resources : p.resources = s.resources
  contexts : p.contexts = s.contexts
  jobs : p.jobs = s.jobs
  cancellations : p.cancellations = s.cancellations
  process : p.process.timeless = s.process.timeless
  journal : ∃ later, s.journal = G.said ++ later ∧ p.journal = G.said' ++ later

namespace Bridge.Matches

variable {G : Guise σ} {s p : Bridge σ} (h : s.Matches G p)

include h

/-! ### What is read -/

theorem clock : p.machine.clock = s.machine.clock := by rw [h.machine, G.clock]

theorem resource (r : Resource) : p.resource r = s.resource r := by
  rw [Bridge.resource, h.resources, Bridge.resource]

theorem context (c : Context) : p.context c = s.context c := by
  rw [Bridge.context, h.contexts, Bridge.context]

theorem job (j : Job) : p.job j = s.job j := by rw [Bridge.job, h.jobs, Bridge.job]

theorem cancellation (c : Cancellation) : p.cancellation c = s.cancellation c := by
  rw [Bridge.cancellation, h.cancellations, Bridge.cancellation]

theorem closed (m : Manager) : (p.manager m).closed = (s.manager m).closed := by
  rw [← Manager.State.closed_outline, h.outline, Manager.State.closed_outline]

theorem registry (m : Manager) : (p.manager m).registry = (s.manager m).registry :=
  show (p.manager m).outline.registry = _ from h.outline m ▸ rfl

theorem nextId (m : Manager) : (p.manager m).nextId = (s.manager m).nextId :=
  show (p.manager m).outline.nextId = _ from h.outline m ▸ rfl

theorem next : p.next = s.next := by rw [Bridge.next, h.resources, Bridge.next]

theorem has (o : Object) : p.Has o ↔ s.Has o := by
  cases o with
  | manager m => rw [Bridge.Has, h.managers, Bridge.Has]
  | resource r => rw [Bridge.Has, h.resources, Bridge.Has]
  | context c => rw [Bridge.Has, h.contexts, Bridge.Has]
  | job j => rw [Bridge.Has, h.jobs, Bridge.Has]
  | cancellation c => rw [Bridge.Has, h.cancellations, Bridge.Has]

/-! ### What is changed -/

/-- The machine moves, and the guise stays. -/
theorem withMachine {m m' : Machine σ} (hmachine : m' = G.machine m) (hm : G.holds m) :
    (s.withMachine m).Matches G (p.withMachine m') :=
  { h with machine := hmachine, holds := hm }

theorem withScratch (c c' : Scratch) : (s.withScratch c).Matches G (p.withScratch c') :=
  { h with }

theorem note (e : Event) : (s.note e).Matches G (p.note e) := by
  obtain ⟨later, hs, hp⟩ := h.journal
  refine { h with journal := ⟨later ++ [e], ?_, ?_⟩ }
  · rw [Bridge.note, hs, List.append_assoc]
  · rw [Bridge.note, hp, List.append_assoc]

theorem remarked (r : Remark) :
    (s.note (.remarked r)).Matches G (p.note (.remarked r)) := h.note _

theorem tell (r : Option Remark) : (s.tell r).Matches G (p.tell r) := by
  cases r with
  | none => exact h
  | some r => exact h.remarked r

/-- Scopes change alike, but for the sizes of their regions. -/
theorem modifyManagers (m : Manager) {f f' : Manager.State → Manager.State}
    (hf : ∀ a a', a'.outline = a.outline → (f' a').outline = (f a).outline) :
    (s.modifyManager m f).Matches G (p.modifyManager m f') := by
  refine { h with managers := ?_, outline := fun m' => ?_ }
  · exact (Table.size_modify _ _ _).trans (h.managers.trans (Table.size_modify _ _ _).symm)
  · have hhas : p.Has (.manager m) ↔ s.Has (.manager m) := h.has _
    rw [manager_modifyManager, manager_modifyManager]
    by_cases hm : m' = m ∧ s.Has (.manager m)
    · rw [if_pos ⟨hm.1, hhas.2 hm.2⟩, if_pos hm]
      exact hf _ _ (h.outline m)
    · rw [if_neg fun hm' => hm ⟨hm'.1, hhas.1 hm'.2⟩, if_neg hm]
      exact h.outline m'

theorem charge (m : Manager) (cells cells' : Nat) :
    (s.modifyManager m (·.charge cells)).Matches G (p.modifyManager m (·.charge cells')) :=
  h.modifyManagers m fun a a' ha => by
    rw [Manager.State.outline_charge, Manager.State.outline_charge, ha]

theorem modifyManager (m : Manager) {f : Manager.State → Manager.State}
    (hf : ∀ a, (f a).outline = f a.outline) :
    (s.modifyManager m f).Matches G (p.modifyManager m f) :=
  h.modifyManagers m fun a a' ha => by rw [hf, hf, ha]

theorem reclaim (m m' : Manager) : (s.reclaim m).Matches G (p.reclaim m') := by
  obtain ⟨c, hs⟩ := s.reclaim_eq m
  obtain ⟨c', hp⟩ := p.reclaim_eq m'
  rw [hs, hp]
  exact h.withScratch c c'

/-- A buffer is let go of, whichever. -/
theorem letGo (buffer buffer' : Buffer) : (s.letGo buffer).Matches G (p.letGo buffer') :=
  (h.withScratch _ _).reclaim _ _

theorem shut (m : Manager) :
    (s.modifyManager m (·.shut)).Matches G (p.modifyManager m (·.shut)) :=
  h.modifyManagers m fun a a' ha => by
    rw [Manager.State.outline_shut, Manager.State.outline_shut, ha]

theorem handBack (m : Manager) : (s.handBack m).Matches G (p.handBack m) :=
  (h.modifyManagers m fun a a' ha => by
    rw [Manager.State.outline_handBack, Manager.State.outline_handBack, ha]).reclaim m m

theorem addManager (a : Manager.State) : (s.addManager a).Matches G (p.addManager a) := by
  refine { h with managers := ?_, outline := fun m => ?_ }
  · exact (Table.size_add _ _).trans ((congrArg (· + 1) h.managers).trans (Table.size_add _ _).symm)
  · rw [manager_addManager, manager_addManager, h.managers]
    split
    · rfl
    · exact h.outline m

theorem addResource (a : Resource.State σ) : (s.addResource a).Matches G (p.addResource a) :=
  { h with resources := congrArg (·.add a) h.resources }

theorem addContext (a : Context.State σ) : (s.addContext a).Matches G (p.addContext a) :=
  { h with contexts := congrArg (·.add a) h.contexts }

theorem addJob (a : Job.State σ) : (s.addJob a).Matches G (p.addJob a) :=
  { h with jobs := congrArg (·.add a) h.jobs }

theorem addCancellation (a : Cancellation.State σ) :
    (s.addCancellation a).Matches G (p.addCancellation a) :=
  { h with cancellations := congrArg (·.add a) h.cancellations }

theorem modifyJob (j : Job) (f : Job.State σ → Job.State σ) :
    (s.modifyJob j f).Matches G (p.modifyJob j f) :=
  { h with jobs := congrArg (·.modify j.index f) h.jobs }

theorem modifyProcess {f f' : Process σ → Process σ}
    (hlatch : G.latch (f s.process).loggerInitialized)
    (hf : (f' p.process).timeless = (f s.process).timeless) :
    (s.modifyProcess f).Matches G (p.modifyProcess f') :=
  { h with latch := hlatch, process := hf }

/-- A resource is closed and its release action runs. -/
theorem settle {r : Resource}
    (hr : G.Keeps fun m => (s.resource r).releaser.run (s.resource r).handle m) :
    (s.settle r).Matches G (p.settle r) := by
  obtain ⟨later, hs, hp⟩ := h.journal
  obtain ⟨hmachine, hholds⟩ := hr s.machine h.holds
  have hresource := h.resource r
  refine { h with
    machine := ?_
    holds := hholds
    resources := congrArg (·.modify r.index (·.shut)) h.resources
    journal := ⟨later ++ s.farewell r, ?_, ?_⟩ }
  · change (p.resource r).releaser.run (p.resource r).handle p.machine = _
    rw [hresource, h.machine]
    exact hmachine
  · rw [Bridge.settle, hs, List.append_assoc]
  · rw [Bridge.settle, hp, List.append_assoc, Bridge.farewell, hresource, Bridge.farewell]

theorem retire {r : Resource}
    (hr : G.Keeps fun m => (s.resource r).releaser.run (s.resource r).handle m) :
    (s.retire r).Matches G (p.retire r) := by
  rw [Bridge.retire, Bridge.retire, h.resource]
  exact (h.settle hr).modifyManager _ fun _ => rfl

theorem enroll (m : Manager) (handle : Handle) (kind : Kind) (releaser : Releaser σ) :
    (s.enroll m handle kind releaser).Matches G (p.enroll m handle kind releaser) := by
  rw [Bridge.enroll, Bridge.enroll, h.nextId, h.clock]
  exact (h.modifyManager m (f := (·.number)) fun _ => rfl).addResource _

theorem accept (m : Manager) (handle : Handle) (kind : Kind) (releaser : Releaser σ) :
    (s.accept m handle kind releaser).Matches G (p.accept m handle kind releaser) := by
  rw [Bridge.accept, Bridge.accept, h.nextId, h.next]
  exact (h.enroll m handle kind releaser).modifyManager m fun _ => rfl

theorem reject (m : Manager) (handle : Handle) {kind : Kind} {releaser : Releaser σ}
    (hr : G.terms.Releases kind releaser) :
    (s.reject m handle kind releaser).Matches G (p.reject m handle kind releaser) := by
  rw [Bridge.reject, Bridge.reject, h.next]
  refine (h.enroll m handle kind releaser).settle ?_
  rw [resource_enroll_next]
  exact G.keeps_releaser hr handle

end Bridge.Matches

/-- What a context that a call uses is passed with, wherever the call has come. -/
theorem Bridge.Grants.given_handle {G : Guise σ} {b₀ s : Bridge σ} {X : Context}
    (hg : b₀.Grants G.terms G.given (some X)) (hs : Walk G.terms b₀ s)
    (hopen : (s.resource (b₀.context X).resource).closed = false) :
    G.given (some (s.resource (b₀.context X).resource).handle) := by
  have hX := hg.has X rfl
  refine hg.passed _ (hs.remains.passed (fun c hc => ?_) ?_)
  · obtain rfl := Option.some.inj hc
    exact ⟨hX, (hg.served _ hX).2.1⟩
  · rw [Bridge.passed, hs.remains.context X hX]
    exact if_neg (Bool.eq_false_iff.1 hopen)

/-! ## Results that look the same -/

/-- A buffer but for where it is. -/
def Buffer.unplaced (b : Buffer) : Buffer := { b with start := 0 }

/-- **The same failure, or results that look the same.** -/
inductive Agree (look : α → γ) : Except Failure α → Except Failure α → Prop where
  | ok {a a' : α} (h : look a' = look a) : Agree look (.ok a) (.ok a')
  | error (e : Failure) : Agree look (.error e) (.error e)

namespace Agree

variable {look : α → γ} {r r' : Except Failure α}

theorem refl (look : α → γ) (r : Except Failure α) : Agree look r r := by
  cases r with
  | ok a => exact .ok rfl
  | error e => exact .error e

theorem eq (h : Agree id r r') : r' = r := by
  cases h with
  | ok h => exact congrArg Except.ok h
  | error e => rfl

end Agree

/-- **The same outcome of a call but for a guise.** -/
structure Abreast (G : Guise σ) (look : α → γ) (x x' : Except Failure α × Bridge σ) : Prop where
  result : Agree look x.1 x'.1
  bridge : x.2.Matches G x'.2

/-- Calls made of two come to the same if their parts do. -/
theorem Abreast.bind {G : Guise σ} {look : α → γ} {look' : β → δ} {x x' : Action σ α}
    {f f' : α → Action σ β} {s p : Bridge σ} (hx : Abreast G look (x s) (x' p))
    (hf : ∀ a a' s₁ p₁, x s = (.ok a, s₁) → look a' = look a → s₁.Matches G p₁ →
      Abreast G look' (f a s₁) (f' a' p₁)) :
    Abreast G look' ((x >>= f) s) ((x' >>= f') p) := by
  obtain ⟨hresult, hbridge⟩ := hx
  rcases hxs : x s with ⟨r, s₁⟩
  rcases hxp : x' p with ⟨r', p₁⟩
  rw [hxs, hxp] at hresult hbridge
  cases hresult with
  | ok ha =>
    rw [bind_of_ok hxs, bind_of_ok hxp]
    exact hf _ _ s₁ p₁ hxs ha hbridge
  | error e =>
    rw [bind_of_error hxs, bind_of_error hxp]
    exact ⟨.error e, hbridge⟩

/-! ## Calls that are mirrored -/

/-- **Do two calls come to the same but for a guise**, wherever a walk of the first has come? -/
structure Action.Mirrors (G : Guise σ) (b₀ : Bridge σ) (look : α → γ) (x x' : Action σ α) :
    Prop where
  walks : x.Walks G.terms b₀
  abreast : ∀ s p, Walk G.terms b₀ s → s.Matches G p → Abreast G look (x s) (x' p)

namespace Action.Mirrors

open Bridge

variable {G : Guise σ} {b₀ : Bridge σ} {look : α → γ} {x x' : Action σ α}

theorem pure (a : α) : (Pure.pure a : Action σ α).Mirrors G b₀ look (Pure.pure a) :=
  ⟨.pure a, fun _ _ _ h => ⟨.ok rfl, h⟩⟩

/-- Results that look the same. -/
theorem pure_look {a a' : α} (ha : look a' = look a) :
    (Pure.pure a : Action σ α).Mirrors G b₀ look (Pure.pure a') :=
  ⟨.pure a, fun _ _ _ h => ⟨.ok ha, h⟩⟩

theorem fail (e : Failure) :
    (Action.fail e : Action σ α).Mirrors G b₀ look (Action.fail e) :=
  ⟨.fail e, fun _ _ _ h => ⟨.error e, h⟩⟩

theorem ofExcept (r : Except Failure α) :
    (Action.ofExcept r : Action σ α).Mirrors G b₀ look (Action.ofExcept r) :=
  ⟨.ofExcept r, fun _ _ _ h => ⟨.refl look r, h⟩⟩

theorem ofFailure (e : Option Failure) :
    (Action.ofFailure e : Action σ Unit).Mirrors G b₀ id (Action.ofFailure e) := by
  cases e with
  | none => exact pure ()
  | some e => exact fail e

/-- Calls made of two are mirrored if their parts are. -/
theorem bind {look' : β → δ} {f f' : α → Action σ β} (hx : x.Mirrors G b₀ look x')
    (hf : ∀ a a', look a' = look a → (f a).Mirrors G b₀ look' (f' a')) :
    (x >>= f).Mirrors G b₀ look' (x' >>= f') := by
  refine ⟨.bind hx.walks fun a => (hf a a rfl).walks, fun s p hs h => ?_⟩
  refine (hx.abreast s p hs h).bind fun a a' s₁ p₁ hxs ha h₁ => ?_
  have hwalk := hx.walks s hs
  rw [hxs] at hwalk
  exact (hf a a' ha).abreast s₁ p₁ (hs.trans hwalk) h₁

/-- What follows a result that is the same. -/
theorem next {look' : β → δ} {f f' : α → Action σ β} (hx : x.Mirrors G b₀ id x')
    (hf : ∀ a, (f a).Mirrors G b₀ look' (f' a)) : (x >>= f).Mirrors G b₀ look' (x' >>= f') := by
  refine bind hx fun a a' ha => ?_
  obtain rfl : a' = a := ha
  exact hf a'

theorem map {look' : β → δ} {f : α → β} (hx : x.Mirrors G b₀ id x') :
    (f <$> x).Mirrors G b₀ look' (f <$> x') := next hx fun a => pure (f a)

/-- A call that is attempted ends in the same way. -/
theorem attempt_next {look' : β → δ} {f f' : Except Failure α → Action σ β}
    (hx : x.Mirrors G b₀ id x') (hf : ∀ r, (f r).Mirrors G b₀ look' (f' r)) :
    (Action.attempt x >>= f).Mirrors G b₀ look' (Action.attempt x' >>= f') := by
  refine next ⟨hx.walks.attempt, fun s p hs h => ?_⟩ hf
  exact ⟨.ok (hx.abreast s p hs h).result.eq, (hx.abreast s p hs h).bridge⟩

/-- What is read looks the same. -/
theorem read_look (look' : β → δ) {g : Bridge σ → β} {f f' : β → Action σ α}
    (hg : ∀ s p, s.Matches G p → look' (g p) = look' (g s))
    (hf : ∀ s a', Walk G.terms b₀ s → look' a' = look' (g s) →
      (f (g s)).Mirrors G b₀ look (f' a')) :
    (Action.read g >>= f).Mirrors G b₀ look (Action.read g >>= f') := by
  refine ⟨.read fun s hs => (hf s _ hs rfl).walks, fun s p hs h => ?_⟩
  rw [bind_of_ok (read_apply _ _), bind_of_ok (read_apply _ _)]
  exact (hf s (g p) hs (hg s p h)).abreast s p hs h

/-- What is read is the same. -/
theorem read {g : Bridge σ → β} {f f' : β → Action σ α} (hg : ∀ s p, s.Matches G p → g p = g s)
    (hf : ∀ s, Walk G.terms b₀ s → (f (g s)).Mirrors G b₀ look (f' (g s))) :
    (Action.read g >>= f).Mirrors G b₀ look (Action.read g >>= f') :=
  read_look id hg fun s a' hs ha => (show a' = g s from ha) ▸ hf s hs

/-- A change that is one step. -/
theorem step {f f' : Bridge σ → Bridge σ} (hstep : ∀ s, Walk G.terms b₀ s → Step G.terms s (f s))
    (hf : ∀ s p, s.Matches G p → (f s).Matches G (f' p)) :
    (Action.update f).Mirrors G b₀ id (Action.update f') :=
  ⟨.step hstep, fun s p _ h => ⟨.ok rfl, hf s p h⟩⟩

theorem remark (r : Remark) :
    (Action.remark r : Action σ Unit).Mirrors G b₀ id (Action.remark r) :=
  step (fun s _ => .remarked s r) fun _ _ h => h.remarked r

theorem remark? (r : Option Remark) :
    (Action.remark? r : Action σ Unit).Mirrors G b₀ id (Action.remark? r) := by
  refine ⟨.remark? r, fun s p _ h => ?_⟩
  rw [remark?_apply, remark?_apply]
  exact ⟨.ok rfl, h.tell r⟩

theorem clock : (Action.clock : Action σ Nat).Mirrors G b₀ id Action.clock :=
  ⟨.clock, fun _ _ _ h => ⟨.ok h.clock, h⟩⟩

theorem outside {f : Machine σ → Machine σ} (hf : G.Keeps f) :
    (Action.run fun m => ((), f m) : Action σ Unit).Mirrors G b₀ id
      (Action.run fun m => ((), f m)) := by
  refine ⟨.outside fun _ => trivial, fun s p _ h => ⟨.ok rfl, ?_⟩⟩
  obtain ⟨hmachine, hholds⟩ := hf s.machine h.holds
  refine h.withMachine ?_ hholds
  rw [h.machine]
  exact hmachine

/-! ### Scratch memory -/

/-- Nothing depends on where memory is taken. -/
theorem allocating (m : Manager) {f f' : Scratch → Except Failure α × Scratch}
    (hcarved : ∀ c, Scratch.Carved m c (f c).2) (hf : ∀ c c', Agree look (f c).1 (f' c').1) :
    (m.allocating f : Action σ α).Mirrors G b₀ look (m.allocating f') := by
  refine ⟨.allocating m hcarved, fun s p _ h => ?_⟩
  rw [Manager.allocating, Manager.allocating, bind_of_ok (read_apply _ _),
    bind_of_ok (read_apply _ _), h.closed]
  split
  · exact ⟨.error _, h⟩
  · exact ⟨hf s.scratch p.scratch, (h.withScratch _ _).charge m _ _⟩

theorem allocate (m : Manager) {cells cells' : List Cell} (hcells : cells'.length = cells.length) :
    (m.allocate cells : Action σ Buffer).Mirrors G b₀ Buffer.unplaced (m.allocate cells') :=
  allocating m (fun c => .allocate c m cells) fun _ _ => .ok (congrArg (Buffer.mk m 0) hcells)

theorem allocateFrom (r : Resource) {cells cells' : List Cell}
    (hcells : cells'.length = cells.length) :
    (r.allocate cells : Action σ Buffer).Mirrors G b₀ Buffer.unplaced (r.allocate cells') :=
  read (fun _ _ h => h.resource r) fun _ _ => allocate _ hcells

/-- Buffers that look the same are handed out. -/
theorem handOut {x x' : Action σ Buffer} (hwalks : (x >>= Manager.handOut).Walks G.terms b₀)
    (hx : x.Mirrors G b₀ Buffer.unplaced x') :
    (x >>= Manager.handOut).Mirrors G b₀ Buffer.unplaced (x' >>= Manager.handOut) :=
  ⟨hwalks, fun s p hs h => (hx.abreast s p hs h).bind fun _ _ _ _ _ hout h₁ =>
    ⟨.ok hout, h₁.withScratch _ _⟩⟩

theorem put (out out' : Buffer) (offset offset' : Nat) (cell cell' : Cell) :
    (Manager.put out offset cell : Action σ Unit).Mirrors G b₀ id
      (Manager.put out' offset' cell') :=
  step (fun s _ => .write s out offset cell) fun _ _ h => h.withScratch _ _

/-! ### Calls of entry points -/

theorem withHandle (r : Resource) {f f' : Handle → Action σ α}
    (hf : ∀ s, Walk G.terms b₀ s → (s.resource r).closed = false →
      (f (s.resource r).handle).Mirrors G b₀ look (f' (s.resource r).handle)) :
    (r.withHandle f).Mirrors G b₀ look (r.withHandle f') := by
  refine read (fun _ _ h => h.resource r) fun s hs => ?_
  split
  · exact fail _
  · rename_i hopen
    exact hf s hs (Bool.eq_false_iff.2 hopen)

theorem invoke (symbol : Symbol) (target : Option Handle) {call : Call σ α}
    (hcall : G.Unseen call) :
    (HandleBridge.invoke symbol target call).Mirrors G b₀ id
      (HandleBridge.invoke symbol target call) := by
  refine ⟨.invoke symbol target fun _ => trivial, fun s p _ h => ?_⟩
  obtain ⟨heq, hholds⟩ := hcall s.machine h.holds
  rw [← h.machine] at heq
  have hanswer : (call p.machine).1 = (call s.machine).1 := by rw [heq]
  have hmachine : (call p.machine).2 = G.machine (call s.machine).2 := by rw [heq]
  exact ⟨.ok hanswer, (h.note _).withMachine hmachine hholds⟩

theorem invokeInto (out out' : Buffer) (cell : α → Cell) (symbol : Symbol)
    (target : Option Handle) {call : Call σ α} (hcall : G.Unseen call) :
    (HandleBridge.invokeInto out cell symbol target call).Mirrors G b₀ id
      (HandleBridge.invokeInto out' cell symbol target call) :=
  next (invoke symbol target hcall) fun _ => next (put _ _ _ _ _ _) fun _ => pure _

theorem ask (symbol : Symbol) {getter : Option Handle → Bool → Call σ α} {ctx : Handle}
    (hgetter : G.Unseen (getter (some ctx) true)) (take : Answer α → Reading) :
    (HandleBridge.ask symbol getter ctx take).Mirrors G b₀ id
      (HandleBridge.ask symbol getter ctx take) :=
  next (invoke symbol _ hgetter) fun _ => pure _

theorem readDiagnostic {entry : EntryPoints σ} (he : G.Covers entry) {ctx : Handle}
    (hctx : G.given (some ctx)) (status : Status) :
    (HandleBridge.readDiagnostic entry ctx status).Mirrors G b₀ id
      (HandleBridge.readDiagnostic entry ctx status) := by
  refine next (next (ask _ (he.contextErrorName _ hctx _) _) fun _ =>
    ask _ (he.contextErrorMessage _ hctx _) _) fun r => ?_
  split
  · exact next (next (ask _ (he.contextCategoryNumber _ hctx _) _) fun _ =>
      next (ask _ (he.contextCategoryText _ hctx _) _) fun _ =>
      next (ask _ (he.contextCodeNumber _ hctx _) _) fun _ =>
      ask _ (he.contextStructuredCode _ hctx _) _) fun _ => pure _
  · exact pure _

variable {ctx : Option Context}

theorem callNative (hg : b₀.Grants G.terms G.given ctx) (symbol : Symbol)
    {call call' : Option Handle → Action σ (Answer α)}
    (hcall : ∀ c, G.given c → (call c).Mirrors G b₀ id (call' c)) :
    (HandleBridge.callNative ctx symbol call).Mirrors G b₀ id
      (HandleBridge.callNative ctx symbol call') := by
  have report (start : Nat) (result : Option Status × Except Failure α) :
      Action.Mirrors G b₀ id (do
        let span := (← .clock) - start
        .remark? (Remark.ofNativeCall symbol span)
        .remark (.nativeCallEnded symbol (Duration.micros span) result.1)
        .ofExcept result.2 : Action σ α) (do
        let span := (← .clock) - start
        .remark? (Remark.ofNativeCall symbol span)
        .remark (.nativeCallEnded symbol (Duration.micros span) result.1)
        .ofExcept result.2 : Action σ α) :=
    next clock fun _ => next (remark? _) fun _ => next (remark _) fun _ => ofExcept _
  refine next (remark _) fun _ => next clock fun start => ?_
  cases ctx with
  | none => exact next (next (hcall none (hg.passed none rfl)) fun _ => pure _) (report start)
  | some X =>
    have hX := hg.has X rfl
    have hserves := hg.served _ hX
    refine next ?_ (report start)
    refine read (fun _ _ h => h.context X) fun s hs => ?_
    rw [hs.remains.context X hX]
    refine read (fun _ _ h => h.resource _) fun s hs => ?_
    split
    · exact pure _
    · rename_i hopen
      have hgiven := hg.given_handle hs (Bool.eq_false_iff.2 hopen)
      refine next (hcall _ hgiven) fun answer => ?_
      split
      · exact pure _
      · exact next (readDiagnostic hserves.1 hgiven _) fun _ => pure _

theorem query (hg : b₀.Grants G.terms G.given ctx) (r : Resource) (symbol : Symbol)
    {call : Option Handle → Option Handle → Call σ (Option Bool)}
    (hcall : ∀ c, G.given c → ∀ h, G.Unseen (call c h)) :
    (r.query ctx symbol call).Mirrors G b₀ id (r.query ctx symbol call) :=
  bind (allocateFrom r rfl) fun out out' _ => withHandle r fun _ _ _ =>
    next (callNative hg symbol fun c hc => invokeInto out out' _ _ _ (hcall c hc _))
      fun _ => pure _

end Action.Mirrors

end HandleBridge
