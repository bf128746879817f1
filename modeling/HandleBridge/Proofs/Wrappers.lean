import HandleBridge.Proofs.Adoption

/-!
# Proofs/Wrappers — every wrapper wraps a resource that was made

A context, a job or a cancel request is added after its resource, and only when the resource was
accepted.  Nothing else changes what a wrapper wraps.
-/

namespace HandleBridge

open HandleBridge.Action

variable {σ α : Type}

namespace Bridge

/-- **What wrappers wrap was made.** -/
structure Wrapping (b : Bridge σ) : Prop where
  context : ∀ c, b.Has (.context c) → b.Has (.resource (b.context c).resource)
  job : ∀ j, b.Has (.job j) → b.Has (.resource (b.job j).resource)
  cancellation : ∀ c, b.Has (.cancellation c) → b.Has (.resource (b.cancellation c).resource)

theorem Wrapping.start (native : σ) (env : Environment) : (Bridge.start native env).Wrapping :=
  ⟨fun _ h => absurd h (Nat.not_lt_zero _), fun _ h => absurd h (Nat.not_lt_zero _),
    fun _ h => absurd h (Nat.not_lt_zero _)⟩

theorem Wrapping.has {b : Bridge σ} (h : b.Wrapping) {o : Object} {r : Resource} (ho : b.Has o)
    (hr : b.wrapped? o = some r) : b.Has (.resource r) := by
  cases o with
  | manager m => cases hr
  | resource r' => exact Option.some.inj hr ▸ ho
  | context c => exact Option.some.inj hr ▸ h.context c ho
  | job j => exact Option.some.inj hr ▸ h.job j ho
  | cancellation c => exact Option.some.inj hr ▸ h.cancellation c ho

/-- No wrapper is made, and none changes what it wraps. -/
structure SameWrappers (b b' : Bridge σ) : Prop where
  contexts : b'.contexts = b.contexts
  cancellations : b'.cancellations = b.cancellations
  jobs : b'.jobs.size = b.jobs.size
  jobResource : ∀ j, (b'.job j).resource = (b.job j).resource
  size : b.resources.size ≤ b'.resources.size

instance : IsPreorder (Bridge σ) SameWrappers where
  refl _ := ⟨rfl, rfl, rfl, fun _ => rfl, Nat.le_refl _⟩
  trans _ _ _ h h' :=
    ⟨h'.contexts.trans h.contexts, h'.cancellations.trans h.cancellations, h'.jobs.trans h.jobs,
      fun j => (h'.jobResource j).trans (h.jobResource j), Nat.le_trans h.size h'.size⟩

theorem SameWrappers.ofManagers {b : Bridge σ} {managers : Table Manager.State} :
    SameWrappers b { b with managers := managers } := ⟨rfl, rfl, rfl, fun _ => rfl, Nat.le_refl _⟩

/-- Does a change keep what wrappers wrap? -/
def KeepsWrapping (b b' : Bridge σ) : Prop := b.Wrapping → b'.Wrapping

instance : IsPreorder (Bridge σ) KeepsWrapping where
  refl _ := id
  trans _ _ _ h h' := h' ∘ h

theorem SameWrappers.trans {b b' b'' : Bridge σ} (h : SameWrappers b b')
    (h' : SameWrappers b' b'') : SameWrappers b b'' := IsTrans.trans _ _ _ h h'

theorem SameWrappers.keeps {b b' : Bridge σ} (h : SameWrappers b b') : KeepsWrapping b b' := by
  have hgrown {r : Resource} (hr : b.Has (.resource r)) : b'.Has (.resource r) :=
    Nat.lt_of_lt_of_le hr h.size
  refine fun hb => ⟨fun c hc => ?_, fun j hj => ?_, fun c hc => ?_⟩
  · rw [Has, h.contexts] at hc
    rw [context, h.contexts]
    exact hgrown (hb.context c hc)
  · rw [Has, h.jobs] at hj
    rw [h.jobResource]
    exact hgrown (hb.job j hj)
  · rw [Has, h.cancellations] at hc
    rw [cancellation, h.cancellations]
    exact hgrown (hb.cancellation c hc)

theorem SameWrappers.closes : Closes (SameWrappers : Bridge σ → Bridge σ → Prop) where
  quiet _ _ h := ⟨h.contexts, h.cancellations, h.jobs, h.jobResource, Nat.le_of_eq h.size.symm⟩
  retire b r _ :=
    ⟨rfl, rfl, rfl, fun _ => rfl, Nat.le_of_eq (b.resources.size_modify r.index _).symm⟩
  shut _ _ := ofManagers
  forsake _ _ _ := ofManagers

theorem SameWrappers.quiet {b b' : Bridge σ} (h : Quiet b b') : SameWrappers b b' :=
  closes.quiet b b' h

theorem SameWrappers.adopt (b : Bridge σ) (m : Manager) (h : Handle) (kind : Kind)
    (releaser : Releaser σ) : SameWrappers b (Resource.adopt m h kind releaser b).2 := by
  cases hm : (b.manager m).closed with
  | true =>
    have hreject : SameWrappers b (b.reject m h kind releaser) :=
      ⟨rfl, rfl, rfl, fun _ => rfl, Nat.le.intro (adopts_reject hm h kind releaser).size.symm⟩
    rw [Resource.adopt_of_closed hm]
    exact hreject.trans (quiet (Quiet.tell _ _))
  | false =>
    have haccept : SameWrappers b (b.accept m h kind releaser) :=
      ⟨rfl, rfl, rfl, fun _ => rfl, Nat.le.intro (adopts_accept hm h kind releaser).size.symm⟩
    rw [Resource.adopt_of_open hm]
    exact haccept.trans (quiet (Quiet.remarked _ _))

/-- What is done with a resource that was accepted is done with one that was made. -/
theorem KeepsWrapping.adopt (b : Bridge σ) (m : Manager) (h : Handle) (kind : Kind)
    (releaser : Releaser σ) {f : Resource → Action σ α}
    (hf : ∀ r b, b.Has (.resource r) → KeepsWrapping b (f r b).2) :
    KeepsWrapping b ((Resource.adopt m h kind releaser >>= f) b).2 := by
  refine Ensures.bind_at (SameWrappers.adopt b m h kind releaser).keeps fun r hr => hf r _ ?_
  have hsize := (Resource.adopt_adopts b m h kind releaser).size
  cases hm : (b.manager m).closed with
  | true =>
    rw [Resource.adopt_of_closed hm] at hr
    cases hr
  | false =>
    rw [Resource.adopt_of_open hm] at hr hsize ⊢
    obtain rfl := Except.ok.inj hr
    exact Nat.lt_of_lt_of_eq (Nat.lt_succ_self _) hsize.symm

variable {b : Bridge σ}

theorem KeepsWrapping.addContext {s : Context.State σ} (hs : b.Has (.resource s.resource)) :
    KeepsWrapping b (b.addContext s) := by
  refine fun hb => ⟨fun c hc => ?_, hb.job, hb.cancellation⟩
  exact b.contexts.forall_add (P := fun s => b.Has (.resource s.resource))
    (fun i hi => hb.context ⟨i⟩ hi) hs c.index hc

theorem KeepsWrapping.addJob {s : Job.State σ} (hs : b.Has (.resource s.resource)) :
    KeepsWrapping b (b.addJob s) := by
  refine fun hb => ⟨hb.context, fun j hj => ?_, hb.cancellation⟩
  exact b.jobs.forall_add (P := fun s => b.Has (.resource s.resource))
    (fun i hi => hb.job ⟨i⟩ hi) hs j.index hj

theorem KeepsWrapping.addCancellation {s : Cancellation.State σ}
    (hs : b.Has (.resource s.resource)) : KeepsWrapping b (b.addCancellation s) := by
  refine fun hb => ⟨hb.context, hb.job, fun c hc => ?_⟩
  exact b.cancellations.forall_add (P := fun s => b.Has (.resource s.resource))
    (fun i hi => hb.cancellation ⟨i⟩ hi) hs c.index hc

/-! ## Calls that make no wrapper -/

namespace SameWrappers

/-- A value is put under management as a resource of its own. -/
theorem convert (value : TakenValue) (converter : Converter σ) :
    (value.convert converter).Ensures SameWrappers := by
  rcases hkept : value.kept converter with _ | h
  · exact (Quiet.convert hkept).mono closes.quiet
  · obtain ⟨kind, releaser, heq⟩ := TakenValue.convert_of_kept hkept
    rw [heq]
    exact .bind (fun b => adopt b _ _ _ _) fun _ => .pure _

theorem take? (b : Bridge σ) (j : Job) (ctx : Option Context) (mode : TakeMode) :
    SameWrappers b (j.take? ctx mode b).2 := by
  cases hvalue : b.handedOver j ctx mode with
  | none => exact quiet (Job.take?_of_none hvalue)
  | some value =>
    obtain ⟨b₀, b₁, label, h₀, h₁, heq⟩ := Job.take?_of_some hvalue
    have hmark : SameWrappers b₀ (b₀.modifyJob j (·.markTaken)) :=
      ⟨rfl, rfl, b₀.jobs.size_modify _ _,
        fun _ => b₀.jobs.get_modify_congr _ Job.State.resource _ _ fun _ => rfl, Nat.le_refl _⟩
    have hnote : SameWrappers b₁ (b₁.note (.converted j value)) :=
      ⟨rfl, rfl, rfl, fun _ => rfl, Nat.le_refl _⟩
    rw [heq, map_apply]
    exact (((quiet h₀).trans hmark).trans ((quiet h₁).trans hnote)).trans (convert _ _ _)

end SameWrappers

end Bridge

/-- Can a call make a wrapper? -/
def Operation.wraps : {α : Type} → Operation σ α → Bool
  | _, createContext .. | _, adoptContext .. | _, adoptJob .. | _, jobCancelAsync .. => true
  | _, _ => false

namespace Bridge

theorem SameWrappers.operation (op : Operation σ α) (hop : op.wraps = false) (b : Bridge σ) :
    SameWrappers b (op.after b) := by
  cases hasks : op.asks with
  | true => exact quiet (op.quiet hasks b)
  | false =>
    cases op with
    | createManager capacity => exact closes.create (fun _ _ => ofManagers) capacity b
    | closeManager m => exact closes.closeManager m b
    | register m r => exact Closes.register (fun _ _ _ => ofManagers) m r b
    | deregister m r => exact closes.deregister (fun _ _ _ => ofManagers) m r b
    | adopt m h kind pause failure => exact adopt b m h kind _
    | jobTake j ctx =>
      rw [Operation.after, Operation.perform, Job.take, Job.takeExpecting_snd]
      exact take? b j ctx _
    | jobTakeFor j ctx limit =>
      rw [Operation.after, Operation.perform, Job.takeFor, Job.takeExpecting_snd]
      exact take? b j ctx _
    | jobTakeIfReady j ctx => exact take? b j ctx _
    | close o ctx => exact closes.closeObject ctx o b
    | drop o => exact closes.dropObject o b
    | createContext | adoptContext | adoptJob | jobCancelAsync => exact Bool.noConfusion hop
    | _ => exact Bool.noConfusion hasks

/-! ## Calls -/

namespace KeepsWrapping

theorem quiet {x : Action σ α} (hx : x.Ensures Quiet) : x.Ensures KeepsWrapping :=
  hx.mono fun _ _ h => (SameWrappers.quiet h).keeps

theorem adoptContext (library : Library σ) (m : Manager) (h : Handle) :
    (Context.adopt library m h).Ensures KeepsWrapping :=
  fun b => KeepsWrapping.adopt b m h _ _ fun _ _ hr => KeepsWrapping.addContext hr

theorem adoptJob (library : Library σ) (m : Manager) (h : Handle) (converter : Converter σ) :
    (Job.adopt library m h converter).Ensures KeepsWrapping :=
  fun b => KeepsWrapping.adopt b m h _ _ fun _ _ hr => KeepsWrapping.addJob hr

theorem adoptCancellation (library : Library σ) (m : Manager) (h : Handle) :
    (Cancellation.adopt library m h).Ensures KeepsWrapping :=
  fun b => KeepsWrapping.adopt b m h _ _ fun _ _ hr => KeepsWrapping.addCancellation hr

theorem createContext (library : Library σ) (m : Manager) :
    (Context.create library m).Ensures KeepsWrapping := by
  refine .bind (quiet (.allocate m _)) fun out => .bind (quiet (.invokeInto _ _ _ _ _))
    fun answer => ?_
  split
  · split
    · exact adoptContext library m _
    · exact .fail _
  · exact .fail _

theorem cancelAsync (j : Job) (ctx : Option Context) :
    (j.cancelAsync ctx : Action σ _).Ensures KeepsWrapping := by
  refine .bind (.read _) fun s => .bind (.read _) fun resource => ?_
  refine .bind (quiet (.allocate _ _)) fun out => ?_
  refine .bind (quiet (.withHandle _ fun h => ?_)) fun tracker => ?_
  · exact .callNative ctx _ fun c => .invokeInto _ _ _ _ _
  · split
    · exact .pure _
    · exact .map (adoptCancellation _ _ _)

theorem operation (op : Operation σ α) (b : Bridge σ) : KeepsWrapping b (op.after b) := by
  cases hop : op.wraps with
  | false => exact (SameWrappers.operation op hop b).keeps
  | true =>
    cases op with
    | createContext library m => exact createContext library m b
    | adoptContext library m h => exact adoptContext library m h b
    | adoptJob library m h converter => exact adoptJob library m h converter b
    | jobCancelAsync j ctx => exact cancelAsync j ctx b
    | _ => exact Bool.noConfusion hop

end KeepsWrapping

/-! ## Calls that make no context -/

/-- No context is made, and none changes. -/
def SameContexts (b b' : Bridge σ) : Prop := b'.contexts = b.contexts

instance : IsPreorder (Bridge σ) SameContexts where
  refl _ := rfl
  trans _ _ _ h h' := Eq.trans h' h

namespace SameContexts

theorem quiet {x : Action σ α} (hx : x.Ensures Quiet) : x.Ensures SameContexts :=
  hx.mono fun _ _ h => h.contexts

theorem adopt (m : Manager) (h : Handle) (kind : Kind) (releaser : Releaser σ)
    {f : Resource → Action σ α} (hf : ∀ r, (f r).Ensures SameContexts) :
    (Resource.adopt m h kind releaser >>= f).Ensures SameContexts :=
  .bind (fun b => (SameWrappers.adopt b m h kind releaser).contexts) hf

theorem adoptJob (library : Library σ) (m : Manager) (h : Handle) (converter : Converter σ) :
    (Job.adopt library m h converter).Ensures SameContexts := adopt m h _ _ fun _ _ => rfl

theorem cancelAsync (j : Job) (ctx : Option Context) :
    (j.cancelAsync ctx : Action σ _).Ensures SameContexts := by
  refine .bind (.read _) fun s => .bind (.read _) fun resource => ?_
  refine .bind (quiet (.allocate _ _)) fun out => ?_
  refine .bind (quiet (.withHandle _ fun h => ?_)) fun tracker => ?_
  · exact .callNative ctx _ fun c => .invokeInto _ _ _ _ _
  · split
    · exact .pure _
    · exact .map (adopt _ _ _ _ fun _ _ => rfl)

end SameContexts

end Bridge

/-- Can a call make a context? -/
def Operation.makesContext : {α : Type} → Operation σ α → Bool
  | _, createContext .. | _, adoptContext .. => true
  | _, _ => false

theorem Bridge.SameContexts.operation (op : Operation σ α) (hop : op.makesContext = false)
    (b : Bridge σ) : SameContexts b (op.after b) := by
  cases hwraps : op.wraps with
  | false => exact (SameWrappers.operation op hwraps b).contexts
  | true =>
    cases op with
    | adoptJob library m h converter => exact adoptJob library m h converter b
    | jobCancelAsync j ctx => exact cancelAsync j ctx b
    | createContext | adoptContext => exact Bool.noConfusion hop
    | _ => exact Bool.noConfusion hwraps

/-- **Along every run wrappers wrap what was made.** -/
theorem Run.wrapping {b b' : Bridge σ} (run : Run b b') (h : b.Wrapping) : b'.Wrapping :=
  run.keeps h fun op _ => Bridge.KeepsWrapping.operation op _

end HandleBridge
