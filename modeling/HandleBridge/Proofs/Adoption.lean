import HandleBridge.Proofs.NativeAnswer
import HandleBridge.Proofs.Registration

/-!
# Proofs/Adoption — which calls put a native object under management, and with which handle

`Operation.offered` names the handle that a call puts under management and the manager that is to
own it: an argument of the caller's, or what the native library writes in the course of the call.  A
call that is offered a handle makes one resource, and any other call makes none
(`Operation.adopts`).
-/

namespace HandleBridge

open HandleBridge.Action

variable {σ α : Type}

namespace Bridge

variable {b b' b'' : Bridge σ}

/-! ## One resource more -/

/-- **A manager was offered a handle**: there is one resource more, open if the manager is. -/
structure Adopts (m : Manager) (h : Handle) (b b' : Bridge σ) : Prop where
  size : b'.resources.size = b.resources.size + 1
  manager : (b'.resource b.next).manager = m
  handle : (b'.resource b.next).handle = h
  id : (b'.resource b.next).id = (b.manager m).nextId
  closed : (b'.resource b.next).closed = (b.manager m).closed

/-- Resources are as they were, and so is what managers do with the next one. -/
structure Even (b b' : Bridge σ) : Prop where
  resources : b'.resources = b.resources
  nextId : ∀ m, (b'.manager m).nextId = (b.manager m).nextId
  closed : ∀ m, (b'.manager m).closed = (b.manager m).closed

theorem Even.refl (b : Bridge σ) : Even b b := ⟨rfl, fun _ => rfl, fun _ => rfl⟩

theorem Even.trans (h : Even b b') (h' : Even b' b'') : Even b b'' :=
  ⟨h'.resources.trans h.resources, fun m => (h'.nextId m).trans (h.nextId m),
    fun m => (h'.closed m).trans (h.closed m)⟩

instance : IsPreorder (Bridge σ) Even where
  refl := Even.refl
  trans _ _ _ := Even.trans

theorem Adopts.after_even {m : Manager} {h : Handle} (he : Even b b') (ha : Adopts m h b' b'') :
    Adopts m h b b'' := by
  have hnext : b'.next = b.next := by rw [next, he.resources, next]
  obtain ⟨size, manager, handle, id, closed⟩ := ha
  rw [hnext] at manager handle id closed
  exact ⟨by rw [size, he.resources], manager, handle, by rw [id, he.nextId],
    by rw [closed, he.closed]⟩

theorem Adopts.before_even {m : Manager} {h : Handle} (ha : Adopts m h b b') (he : Even b' b'') :
    Adopts m h b b'' := by
  have hread : b''.resource b.next = b'.resource b.next := by rw [resource, he.resources, resource]
  obtain ⟨size, manager, handle, id, closed⟩ := ha
  exact ⟨by rw [he.resources, size], by rw [hread, manager], by rw [hread, handle],
    by rw [hread, id], by rw [hread, closed]⟩

theorem size_enroll (b : Bridge σ) (m : Manager) (h : Handle) (kind : Kind)
    (releaser : Releaser σ) :
    (b.enroll m h kind releaser).resources.size = b.resources.size + 1 := Table.size_add _ _

theorem adopts_accept {m : Manager} (hm : (b.manager m).closed = false) (h : Handle) (kind : Kind)
    (releaser : Releaser σ) : b.Adopts m h (b.accept m h kind releaser) := by
  have hread : (b.accept m h kind releaser).resource b.next = _ :=
    b.resource_enroll_next m h kind releaser
  exact ⟨b.size_enroll m h kind releaser, by rw [hread], by rw [hread], by rw [hread],
    by rw [hread, hm]⟩

theorem adopts_reject {m : Manager} (hm : (b.manager m).closed = true) (h : Handle) (kind : Kind)
    (releaser : Releaser σ) : b.Adopts m h (b.reject m h kind releaser) := by
  have hread : (b.reject m h kind releaser).resource b.next = _ :=
    (b.enroll m h kind releaser).resource_settle b.next b.next
  rw [if_pos rfl, resource_enroll_next] at hread
  refine ⟨?_, by rw [hread]; rfl, by rw [hread]; rfl, by rw [hread]; rfl, by rw [hread, hm]; rfl⟩
  exact (Table.size_modify _ _ _).trans (b.size_enroll m h kind releaser)

/-- What came of an offer, if there was one. -/
def AdoptsAny (offer : Option (Manager × Handle)) (b b' : Bridge σ) : Prop :=
  match offer with
  | none => b'.resources.size = b.resources.size
  | some (m, h) => Adopts m h b b'

theorem AdoptsAny.after_even {offer : Option (Manager × Handle)} (he : Even b b')
    (ha : AdoptsAny offer b' b'') : AdoptsAny offer b b'' := by
  cases offer with
  | none => exact ha.trans (congrArg Table.size he.resources)
  | some o => exact Adopts.after_even he ha

/-- Are there as many resources as before? -/
def SameSize (b b' : Bridge σ) : Prop := b'.resources.size = b.resources.size

instance : IsPreorder (Bridge σ) SameSize where
  refl _ := rfl
  trans _ _ _ h h' := Eq.trans h' h

/-- What closes an object makes none. -/
theorem SameSize.closes : Closes (SameSize : Bridge σ → Bridge σ → Prop) where
  quiet _ _ := Quiet.size
  retire b r _ := b.resources.size_modify r.index _
  shut _ _ := rfl
  forsake _ _ _ := rfl

end Bridge

theorem Quiet.even {b b' : Bridge σ} (h : Quiet b b') : b.Even b' :=
  ⟨h.resources, h.nextId, h.closed⟩

open Bridge

/-! ## Adopting -/

theorem Resource.adopt_adopts (b : Bridge σ) (m : Manager) (h : Handle) (kind : Kind)
    (releaser : Releaser σ) : b.Adopts m h (adopt m h kind releaser b).2 := by
  cases hm : (b.manager m).closed with
  | true =>
    rw [adopt_of_closed hm]
    exact (adopts_reject hm h kind releaser).before_even (Quiet.tell _ _).even
  | false =>
    rw [adopt_of_open hm]
    exact (adopts_accept hm h kind releaser).before_even (Quiet.remarked _ _).even

/-- What follows an adoption and leaves resources alone does not undo it. -/
theorem Resource.adopt_bind_adopts (b : Bridge σ) (m : Manager) (h : Handle) (kind : Kind)
    (releaser : Releaser σ) {f : Resource → Action σ α} (hf : ∀ r, (f r).Ensures Even) :
    b.Adopts m h ((adopt m h kind releaser >>= f) b).2 := by
  have hadopt := adopt_adopts b m h kind releaser
  rw [bind_apply]
  rcases heq : adopt m h kind releaser b with ⟨e | r, b'⟩ <;> rw [heq] at hadopt
  · exact hadopt
  · exact hadopt.before_even (hf r b')

theorem Context.adopt_adopts (b : Bridge σ) (library : Library σ) (m : Manager) (h : Handle) :
    b.Adopts m h (Context.adopt library m h b).2 :=
  Resource.adopt_bind_adopts b m h _ _ fun _ => .bind (.read _) fun _ =>
    .bind (fun _ => ⟨rfl, fun _ => rfl, fun _ => rfl⟩) fun _ => .pure _

theorem Job.adopt_adopts (b : Bridge σ) (library : Library σ) (m : Manager) (h : Handle)
    (converter : Converter σ) : b.Adopts m h (Job.adopt library m h converter b).2 :=
  Resource.adopt_bind_adopts b m h _ _ fun _ => .bind (.read _) fun _ =>
    .bind (fun _ => ⟨rfl, fun _ => rfl, fun _ => rfl⟩) fun _ => .pure _

theorem Cancellation.adopt_adopts (b : Bridge σ) (library : Library σ) (m : Manager) (h : Handle) :
    b.Adopts m h (Cancellation.adopt library m h b).2 :=
  Resource.adopt_bind_adopts b m h _ _ fun _ => .bind (.read _) fun _ =>
    .bind (fun _ => ⟨rfl, fun _ => rfl, fun _ => rfl⟩) fun _ => .pure _

/-! ## Calls that may be offered something -/

/-- The manager that a job's value goes to. -/
def Bridge.keeper (b : Bridge σ) (j : Job) : Manager := (b.resource (b.job j).resource).manager

/-- What the native library writes for a new context. -/
def Bridge.created (b : Bridge σ) (library : Library σ) (m : Manager) : Option (Manager × Handle) :=
  if (b.manager m).closed then none
  else ((library.entry.contextCreate true b.machine).1.success?.join).map (m, ·)

/-- What the native library writes for the object that tracks a cancel request. -/
def Bridge.tracked (b : Bridge σ) (j : Job) (ctx : Option Context) : Option (Manager × Handle) :=
  (b.reach (b.job j).resource).bind fun h => (b.passed ctx).bind fun c =>
    (((b.job j).library.entry.jobCancelAsync c (some h) true b.machine).1.success?.join).map
      (b.keeper j, ·)

/-- The value of a job, if a take obtains it and its converter puts it under management. -/
def Bridge.yielded (b : Bridge σ) (j : Job) (ctx : Option Context) (mode : TakeMode) :
    Option (Manager × Handle) :=
  match (b.job j).converter with
  | .adopt .. => ((b.handedOver j ctx mode).join).map (b.keeper j, ·)
  | _ => none

theorem Context.create_adopts (b : Bridge σ) (library : Library σ) (m : Manager) :
    b.AdoptsAny (b.created library m) (Context.create library m b).2 := by
  cases hm : (b.manager m).closed with
  | true =>
    rw [create, bind_of_error (Manager.allocate_of_closed hm _), Bridge.created, hm]
    rfl
  | false =>
    obtain ⟨out, scratch, n, halloc⟩ := Manager.allocate_of_open hm [.ofHandle none]
    obtain ⟨b', hquiet, heq⟩ := invokeInto_apply out .ofHandle .contextCreate none
      (library.entry.contextCreate true) (b.spend m scratch n)
    have hquiet := (Quiet.spend b m scratch n).trans hquiet
    rw [create, bind_of_ok halloc, bind_of_ok heq, Bridge.created, hm, Answer.success?,
      show (b.spend m scratch n).machine = b.machine from rfl]
    rcases (library.entry.contextCreate true b.machine).1 with ⟨status, _ | h⟩ <;>
      rcases status.isOk with _ | _ <;> simp only
    · exact hquiet.size
    · exact hquiet.size
    · exact hquiet.size
    · exact (Context.adopt_adopts b' library m h).after_even hquiet.even

theorem Job.cancelAsync_adopts (b : Bridge σ) (j : Job) (ctx : Option Context) :
    b.AdoptsAny (b.tracked j ctx) (j.cancelAsync ctx b).2 := by
  cases hm : (b.manager (b.keeper j)).closed with
  | true =>
    rw [cancelAsync_of_closed hm, Bridge.tracked, Bridge.reach_of_manager_closed hm]
    rfl
  | false =>
    obtain ⟨out, scratch, n, halloc⟩ := Manager.allocate_of_open hm [.ofHandle none]
    have hspend := Quiet.spend b (b.keeper j) scratch n
    rw [cancelAsync, bind_of_ok (read_apply _ _), bind_of_ok (read_apply _ _),
      show (b.resource (b.job j).resource).manager = b.keeper j from rfl, bind_of_ok halloc]
    cases hopen : (b.resource (b.job j).resource).closed with
    | true =>
      have hclosed : ((b.spend (b.keeper j) scratch n).resource (b.job j).resource).closed = true :=
        hopen
      rw [bind_of_error (Resource.withHandle_of_closed hclosed _), Bridge.tracked,
        Bridge.reach_of_closed hopen]
      exact hspend.size
    | false =>
      have hopen' : ((b.spend (b.keeper j) scratch n).resource (b.job j).resource).closed = false :=
        hopen
      let target := some (b.resource (b.job j).resource).handle
      obtain ⟨result, b', hquiet, heq, hresult⟩ :=
        callInto_apply out .ofHandle .jobCancelAsync target
          (fun c => (b.job j).library.entry.jobCancelAsync c target true) ctx
          (b.spend (b.keeper j) scratch n)
      have hquiet := hspend.trans hquiet
      have hmachine : (b.spend (b.keeper j) scratch n).machine = b.machine := rfl
      rw [hspend.passed, hmachine] at hresult
      have htracked : b.tracked j ctx = (result.toOption.join).map (b.keeper j, ·) := by
        rw [Bridge.tracked, Bridge.reach_of_open hopen hm, Option.bind_some, hresult]
        cases b.passed ctx <;> rfl
      rw [bind_apply, Resource.withHandle_of_open hopen', htracked]
      rw [show (b.spend (b.keeper j) scratch n).resource (b.job j).resource =
        b.resource (b.job j).resource from rfl, heq]
      rcases result with e | _ | h
      · exact hquiet.size
      · exact hquiet.size
      · change b.Adopts _ h ((some <$> Cancellation.adopt _ _ h) b').2
        rw [map_apply]
        exact (Cancellation.adopt_adopts b' _ _ h).after_even hquiet.even

theorem TakenValue.convert_adopts (b : Bridge σ) (value : TakenValue) (converter : Converter σ) :
    b.AdoptsAny ((value.kept converter).map (value.manager, ·)) (value.convert converter b).2 := by
  rcases hkept : value.kept converter with _ | h
  · exact (Quiet.convert hkept b).size
  · obtain ⟨kind, releaser, heq⟩ := convert_of_kept hkept
    rw [heq]
    exact Resource.adopt_bind_adopts b value.manager h kind releaser fun _ => .pure _

theorem Bridge.even_modifyJob (b : Bridge σ) (j : Job) (f : Job.State σ → Job.State σ) :
    Even b (b.modifyJob j f) := ⟨rfl, fun _ => rfl, fun _ => rfl⟩

theorem Job.take?_adopts (b : Bridge σ) (j : Job) (ctx : Option Context) (mode : TakeMode) :
    b.AdoptsAny (b.yielded j ctx mode) (j.take? ctx mode b).2 := by
  cases hvalue : b.handedOver j ctx mode with
  | none =>
    have hyielded : b.yielded j ctx mode = none := by
      rw [Bridge.yielded, hvalue]
      split <;> rfl
    rw [hyielded]
    exact (take?_of_none hvalue).size
  | some value =>
    obtain ⟨b₀, b₁, label, hquiet, hquiet', heq⟩ := take?_of_some hvalue
    have heven : Even b (b₁.note (.converted j value)) :=
      (hquiet.even.trans (b₀.even_modifyJob j _)).trans
        (hquiet'.even.trans ⟨rfl, fun _ => rfl, fun _ => rfl⟩)
    have hconvert := TakenValue.convert_adopts (b₁.note (.converted j value))
      ⟨value, b.keeper j, (b.job j).library.origin, label⟩ (b.job j).converter
    have hyielded : b.yielded j ctx mode =
        (TakenValue.kept ⟨value, b.keeper j, (b.job j).library.origin, label⟩
          (b.job j).converter).map (b.keeper j, ·) := by
      rw [Bridge.yielded, hvalue]
      cases (b.job j).converter <;> rfl
    rw [heq, map_apply, hyielded]
    exact hconvert.after_even heven

theorem Job.takeExpecting_snd (symbol : Symbol) (take : Action σ (Option Yield)) (b : Bridge σ) :
    (takeExpecting symbol take b).2 = (take b).2 := by
  rw [takeExpecting, bind_apply]
  rcases take b with ⟨_ | _ | y, b'⟩ <;> rfl

/-! ## Operations -/

namespace Operation

/-- **The handle that a call puts under management**, and the manager that is to own it. -/
def offered (b : Bridge σ) : {α : Type} → Operation σ α → Option (Manager × Handle)
  | _, adopt m h _ _ _ => some (m, h)
  | _, adoptContext _ m h => some (m, h)
  | _, adoptJob _ m h _ => some (m, h)
  | _, createContext library m => b.created library m
  | _, jobCancelAsync j ctx => b.tracked j ctx
  | _, jobTake j ctx => b.yielded j ctx .blocking
  | _, jobTakeFor j ctx limit => b.yielded j ctx (.bounded limit)
  | _, jobTakeIfReady j ctx => b.yielded j ctx .ifReady
  | _, _ => none

theorem offered_of_asks (op : Operation σ α) (h : op.asks = true) (b : Bridge σ) :
    op.offered b = none := by
  cases op <;> first | rfl | exact Bool.noConfusion h

/-- **A call makes one resource of what it is offered**, and none otherwise. -/
theorem adopts (op : Operation σ α) (b : Bridge σ) : b.AdoptsAny (op.offered b) (op.after b) := by
  cases hasks : op.asks with
  | true =>
    rw [op.offered_of_asks hasks]
    exact (op.quiet hasks b).size
  | false =>
    cases op with
    | createManager capacity => exact SameSize.closes.create (fun _ _ => rfl) capacity b
    | closeManager m => exact SameSize.closes.closeManager m b
    | register m r => exact Closes.register (R := SameSize) (fun _ _ _ => rfl) m r b
    | deregister m r => exact SameSize.closes.deregister (fun _ _ _ => rfl) m r b
    | adopt m h kind pause failure => exact Resource.adopt_adopts b m h kind _
    | createContext library m => exact Context.create_adopts b library m
    | adoptContext library m h => exact Context.adopt_adopts b library m h
    | adoptJob library m h converter => exact Job.adopt_adopts b library m h converter
    | jobTake j ctx =>
      have := Job.take?_adopts b j ctx .blocking
      rwa [← Job.takeExpecting_snd .jobTake] at this
    | jobTakeFor j ctx limit =>
      have := Job.take?_adopts b j ctx (.bounded limit)
      rwa [← Job.takeExpecting_snd .jobTakeFor] at this
    | jobTakeIfReady j ctx => exact Job.take?_adopts b j ctx .ifReady
    | jobCancelAsync j ctx => exact Job.cancelAsync_adopts b j ctx
    | close o ctx => exact SameSize.closes.closeObject ctx o b
    | drop o => exact SameSize.closes.dropObject o b
    | _ => exact Bool.noConfusion hasks

end Operation

end HandleBridge
