import HandleBridge.Proofs.Walks

/-!
# Proofs/Terminal — what was closed stays closed, and refuses to be used

Every call that uses the handle of an object looks whether the object is open first, and most take
scratch memory from its manager before that.  On a closed object such a call therefore ends before
anything happens (`Action.Refused`): with the manager's refusal if that is gone, and else with the
object's own.
-/

namespace HandleBridge

open HandleBridge.Action

variable {σ α β : Type}

/-! ## Calls that touch nothing -/

namespace Bridge

/-- **Nothing was touched**: scratch memory may have grown, and a region was charged for it. -/
structure Untouched (b b' : Bridge σ) : Prop where
  machine : b'.machine = b.machine
  managers : b'.managers.size = b.managers.size
  outline : ∀ m, (b'.manager m).outline = (b.manager m).outline
  resources : b'.resources = b.resources
  contexts : b'.contexts = b.contexts
  jobs : b'.jobs = b.jobs
  cancellations : b'.cancellations = b.cancellations
  slots : b.scratch.slots <+: b'.scratch.slots
  held : b'.scratch.held = b.scratch.held
  ended : ∀ m, (b'.manager m).phase = .ended ↔ (b.manager m).phase = .ended
  process : b'.process = b.process
  journal : b'.journal = b.journal

namespace Untouched

variable {b b' b'' : Bridge σ}

theorem refl (b : Bridge σ) : Untouched b b :=
  ⟨rfl, rfl, fun _ => rfl, rfl, rfl, rfl, rfl, List.prefix_rfl, rfl, fun _ => Iff.rfl, rfl, rfl⟩

theorem trans (h : Untouched b b') (h' : Untouched b' b'') : Untouched b b'' where
  machine := h'.machine.trans h.machine
  managers := h'.managers.trans h.managers
  outline m := (h'.outline m).trans (h.outline m)
  resources := h'.resources.trans h.resources
  contexts := h'.contexts.trans h.contexts
  jobs := h'.jobs.trans h.jobs
  cancellations := h'.cancellations.trans h.cancellations
  slots := h.slots.trans h'.slots
  held := h'.held.trans h.held
  ended m := (h'.ended m).trans (h.ended m)
  process := h'.process.trans h.process
  journal := h'.journal.trans h.journal

theorem resource (h : Untouched b b') (r : Resource) : b'.resource r = b.resource r :=
  congrArg (·.get r.index) h.resources

/-- Fresh cells touch nothing that was there. -/
theorem allocate (m : Manager) (cells : List Cell) (b : Bridge σ) :
    Untouched b (m.allocate cells b).2 := by
  cases hm : (b.manager m).closed with
  | true =>
    rw [Manager.allocate_of_closed hm]
    exact refl b
  | false =>
    rw [Manager.allocate, Manager.allocating, bind_of_ok (read_apply _ _),
      if_neg (Bool.eq_false_iff.1 hm)]
    exact { refl b with
      managers := Table.size_modify _ _ _
      outline := fun _ => b.managers.get_modify_congr _ Manager.State.outline _ _ fun s =>
        s.outline_charge _
      slots := List.prefix_append _ _
      ended := b.ended_charge m _ }

end Untouched

/-- Why the handle of a closed resource cannot be used.  What takes scratch memory first comes no
further than its manager. -/
def refusal (b : Bridge σ) (allocates : Bool) (r : Resource) : Failure :=
  let s := b.resource r
  if allocates && (b.manager s.manager).closed then .managerClosed else .alreadyClosed s.kind

theorem refusal_of_open {b : Bridge σ} {r : Resource}
    (hm : (b.manager (b.resource r).manager).closed = false) :
    b.refusal true r = .alreadyClosed (b.resource r).kind := by
  rw [refusal, hm]
  rfl

end Bridge

open Bridge

/-- Does a call end with a failure before it touches anything? -/
def Action.Refused (b : Bridge σ) (e : Failure) (x : Action σ α) : Prop :=
  (x b).1 = .error e ∧ Untouched b (x b).2

namespace Action.Refused

variable {b : Bridge σ} {e : Failure} {x : Action σ α}

theorem bind (h : x.Refused b e) (f : α → Action σ β) : (x >>= f).Refused b e := by
  rw [Refused, bind_of_error (Prod.ext h.1 rfl)]
  exact ⟨rfl, h.2⟩

theorem map (h : x.Refused b e) (f : α → β) : (f <$> x).Refused b e := h.bind _

theorem read {γ : Type} {f : Bridge σ → γ} {g : γ → Action σ α} (h : (g (f b)).Refused b e) :
    (Action.read f >>= g).Refused b e := h

variable {r : Resource} (hr : (b.resource r).closed = true)

include hr

theorem withHandle (f : Handle → Action σ α) :
    (r.withHandle f).Refused b (.alreadyClosed (b.resource r).kind) := by
  rw [Refused, Resource.withHandle_of_closed hr]
  exact ⟨rfl, .refl b⟩

/-- Memory is taken before the handle is looked at, and if there is none that is the failure. -/
theorem allocate (cells : List Cell) {f : Buffer → Action σ α}
    (hf : ∀ out b', Untouched b b' → (b'.manager (b'.resource r).manager).closed = false →
      (b'.resource r).closed = true → (f out).Refused b' (.alreadyClosed (b'.resource r).kind)) :
    ((b.resource r).manager.allocate cells >>= f).Refused b (b.refusal true r) := by
  have htouched := Untouched.allocate (b.resource r).manager cells b
  cases hm : (b.manager (b.resource r).manager).closed with
  | true =>
    refine bind ?_ f
    rw [Refused, Manager.allocate_of_closed hm, refusal, hm]
    exact ⟨rfl, .refl b⟩
  | false =>
    obtain ⟨out, scratch, n, heq⟩ := Manager.allocate_of_open hm cells
    rw [heq] at htouched
    obtain ⟨hfail, huntouched⟩ := hf out (b.spend (b.resource r).manager scratch n) htouched
      ((b.closed_spend _ _ _ _).trans hm) hr
    rw [Refused, bind_of_ok heq, hfail, refusal_of_open hm]
    exact ⟨rfl, htouched.trans huntouched⟩

theorem query (ctx : Option Context) (symbol : Symbol)
    (call : Option Handle → Option Handle → Call σ (Option Bool)) :
    (r.query ctx symbol call).Refused b (b.refusal true r) :=
  allocate hr _ fun _ _ _ _ hr' => withHandle hr' _

end Action.Refused

/-! ## Calls on closed objects -/

section Closed

variable {b : Bridge σ}

theorem Context.field_closed {c : Context} (hr : (b.resource (b.context c).resource).closed = true)
    (symbol : Symbol) (initial : Cell) (cell : α → Cell)
    (getter : EntryPoints σ → Option Handle → Bool → Call σ α) :
    (c.field symbol initial cell getter).Refused b (b.refusal true (b.context c).resource) :=
  .read <| .allocate hr _ fun _ _ _ _ hr' => .withHandle hr' _

namespace Job

variable {j : Job} (hr : (b.resource (b.job j).resource).closed = true)

include hr

/-- A name that is known is not looked up. -/
theorem name_closed (hname : (b.job j).name = none) (ctx : Option Context) :
    (j.name ctx).Refused b (b.refusal true (b.job j).resource) := by
  refine .read ?_
  rw [hname]
  exact .read <| .allocate hr _ fun _ _ _ _ hr' => .bind (.withHandle hr' _) _

theorem takeOnce_closed (ctx : Option Context) (mode : TakeMode) :
    (j.takeOnce ctx mode).Refused b (b.refusal true (b.job j).resource) := by
  refine .read <| .read <| .allocate hr _ fun valueOut b' huntouched hm hr' => ?_
  rw [← refusal_of_open hm, ← huntouched.resource]
  exact .allocate hr' _ fun _ _ _ _ hr' => .withHandle hr' _

theorem take?_closed (ctx : Option Context) (mode : TakeMode) :
    (j.take? ctx mode).Refused b (b.refusal true (b.job j).resource) :=
  .read <| .read <| .bind (takeOnce_closed hr ctx mode) _

theorem cancelAsync_closed (ctx : Option Context) :
    (j.cancelAsync ctx).Refused b (b.refusal true (b.job j).resource) :=
  .read <| .read <| .allocate hr _ fun _ _ _ _ hr' => .bind (.withHandle hr' _) _

end Job

theorem Resource.close_of_closed {r : Resource} (hr : (b.resource r).closed = true) :
    r.close b = (.ok (), b) := by
  rw [close, bind_of_ok (release_of_closed hr)]
  rfl

end Closed

/-! ## Operations -/

namespace Operation

variable {b : Bridge σ} {o : Object} {r : Resource}

/-- The object whose handle a call uses.  A name that is known is had without it. -/
def uses (b : Bridge σ) : {α : Type} → Operation σ α → Option Object
  | _, handle r => some (.resource r)
  | _, returnCode c | _, errorType c | _, errorName c | _, errorMessage c | _, categoryNumber c
  | _, categoryText c | _, codeNumber c | _, structuredCode c | _, diagnostic c =>
    some (.context c)
  | _, jobName j _ => if (b.job j).name.isNone then some (.job j) else none
  | _, jobWait j _ _ | _, jobIsDone j _ | _, jobTake j _ | _, jobTakeFor j _ _
  | _, jobTakeIfReady j _ | _, jobCancel j _ | _, jobCancelFor j _ _ | _, jobCancelAsync j _ =>
    some (.job j)
  | _, cancellationWait k _ _ | _, cancellationIsDone k _ => some (.cancellation k)
  | _, _ => none

/-- Does a call take scratch memory before it looks at the handle? -/
def allocates : {α : Type} → Operation σ α → Bool
  | _, handle _ | _, diagnostic _ => false
  | _, _ => true

/-- **A closed object cannot be used.** -/
theorem refused (op : Operation σ α) (hop : op.uses b = some o) (ho : b.wrapped? o = some r)
    (hr : (b.resource r).closed = true) : op.perform.Refused b (b.refusal op.allocates r) := by
  cases op with
  | handle r => cases hop; cases ho; exact .withHandle hr _
  | returnCode c => cases hop; cases ho; exact .map (.bind (Context.field_closed hr _ _ _ _) _) _
  | errorType c => cases hop; cases ho; exact .map (.bind (Context.field_closed hr _ _ _ _) _) _
  | errorName c => cases hop; cases ho; exact .bind (Context.field_closed hr _ _ _ _) _
  | errorMessage c => cases hop; cases ho; exact .bind (Context.field_closed hr _ _ _ _) _
  | categoryNumber c => cases hop; cases ho; exact .bind (Context.field_closed hr _ _ _ _) _
  | categoryText c => cases hop; cases ho; exact .bind (Context.field_closed hr _ _ _ _) _
  | codeNumber c => cases hop; cases ho; exact .bind (Context.field_closed hr _ _ _ _) _
  | structuredCode c => cases hop; cases ho; exact .bind (Context.field_closed hr _ _ _ _) _
  | diagnostic c => cases hop; cases ho; exact .read (.withHandle hr _)
  | jobName j ctx =>
    rw [uses] at hop
    split at hop
    · rename_i hname
      cases hop; cases ho; exact Job.name_closed hr (Option.isNone_iff_eq_none.1 hname) ctx
    · cases hop
  | jobWait j ctx limit => cases hop; cases ho; exact .read (.query hr ctx _ _)
  | jobIsDone j ctx => cases hop; cases ho; exact .read (.query hr ctx _ _)
  | jobTake j ctx => cases hop; cases ho; exact .bind (Job.take?_closed hr ctx _) _
  | jobTakeFor j ctx limit => cases hop; cases ho; exact .bind (Job.take?_closed hr ctx _) _
  | jobTakeIfReady j ctx => cases hop; cases ho; exact Job.take?_closed hr ctx _
  | jobCancel j ctx => cases hop; cases ho; exact .read (.query hr ctx _ _)
  | jobCancelFor j ctx limit => cases hop; cases ho; exact .read (.query hr ctx _ _)
  | jobCancelAsync j ctx => cases hop; cases ho; exact Job.cancelAsync_closed hr ctx
  | cancellationWait k ctx limit => cases hop; cases ho; exact .read (.query hr ctx _ _)
  | cancellationIsDone k ctx => cases hop; cases ho; exact .read (.query hr ctx _ _)
  | _ => cases hop

/-- **What is closed already is closed again without anything happening.** -/
theorem close_of_closed (ho : b.wrapped? o = some r) (hr : (b.resource r).closed = true)
    (ctx : Option Context) : (close o ctx).perform b = (.ok (), b) := by
  cases o with
  | manager m => cases ho
  | resource r => cases ho; exact Resource.close_of_closed hr
  | context c => cases ho; exact Resource.close_of_closed hr
  | job j => cases ho; exact Job.close_of_closed hr ctx
  | cancellation c => cases ho; exact Resource.close_of_closed hr

end Operation

/-! ## Runs -/

namespace Bridge

/-- The kind of native object that an object wraps. -/
def kind? (b : Bridge σ) : Object → Option Kind
  | .manager _ => none
  | .resource r => some (b.resource r).kind
  | .context _ => some .context
  | .job _ => some .job
  | .cancellation _ => some .cancelJob

/-- Is the manager of a resource closed, or is its wrapper gone? -/
def adrift (b : Bridge σ) (r : Resource) : Bool :=
  let s := b.manager (b.resource r).manager
  s.closed || s.dropped

theorem WellFormed.adrift {b : Bridge σ} (h : b.WellFormed) (r : Resource) :
    b.adrift r = (b.manager (b.resource r).manager).closed := by
  rw [Bridge.adrift]
  cases hdropped : (b.manager (b.resource r).manager).dropped with
  | true => rw [h.forsaken _ hdropped, Bool.true_or]
  | false => exact Bool.or_false _

/-- A wrapper's resource is of the wrapper's kind. -/
theorem Served.kind? {T : Terms σ} {b : Bridge σ} (h : b.Served T) {o : Object} {r : Resource}
    (ho : b.Has o) (hr : b.wrapped? o = some r) :
    b.Has (.resource r) ∧ b.kind? o = some (b.resource r).kind := by
  have hserves := h o ho
  cases o with
  | manager m => cases hr
  | resource r => cases hr; exact ⟨ho, rfl⟩
  | context c => cases hr; exact ⟨hserves.2.1, congrArg some hserves.2.2.1.symm⟩
  | job j => cases hr; exact ⟨hserves.2.1, congrArg some hserves.2.2.1.symm⟩
  | cancellation c => cases hr; exact ⟨hserves.2.1, congrArg some hserves.2.2.1.symm⟩

end Bridge

namespace Run

variable {native : σ} {env : Environment} {b b' : Bridge σ}

/-- **Closed is terminal.**  Whatever happens afterwards, a closed object stays closed, closing it
again does nothing, and every use of it is refused before anything is touched. -/
theorem closed_terminal (run : Run (.start native env) b) (continuation : Run b b') {o : Object}
    {r : Resource} (ho : b.Has o) (hr : b.wrapped? o = some r)
    (hclosed : (b.resource r).closed = true) :
    b'.wrapped? o = some r ∧ (b'.resource r).closed = true ∧
    (∀ ctx, (Operation.close o ctx).perform b' = (.ok (), b')) ∧
    ∃ kind, b'.kind? o = some kind ∧
      (∀ {α : Type} (f : Handle → Action σ α),
        (r.withHandle f).Refused b' (.alreadyClosed kind)) ∧
      ∀ {α : Type} (op : Operation σ α), op.uses b' = some o →
        op.perform.Refused b'
          (if op.allocates && b'.adrift r then .managerClosed else .alreadyClosed kind) := by
  obtain ⟨-, hserved⟩ := run.walk_any (.start .any native env)
  obtain ⟨hwalk, hserved'⟩ := continuation.walk_any hserved
  have hwf := (continuation.wellFormed (run.wellFormed (.start native env)).1).1
  have ho' := hwalk.remains.has o ho
  have hr' := (hwalk.remains.wrapped? ho).trans hr
  have hclosed' := hwalk.remains.closed_resource (hserved.kind? ho hr).1 hclosed
  refine ⟨hr', hclosed', fun ctx => Operation.close_of_closed hr' hclosed' ctx, _,
    (hserved'.kind? ho' hr').2, fun f => .withHandle hclosed' f, fun op hop => ?_⟩
  rw [hwf.adrift]
  exact op.refused hop hr' hclosed'

/-- A context that went with its manager. -/
theorem closed_terminal_of_manager :
    ∃ (b b' : Bridge Unit) (_ : Run (.start () []) b) (_ : Run b b'),
      b.Has (.context ⟨0⟩) ∧ b.wrapped? (.context ⟨0⟩) = some ⟨0⟩ ∧
      (b.resource ⟨0⟩).closed = true ∧
      (Operation.errorMessage ⟨0⟩).perform.Refused b' .managerClosed ∧
      (Operation.diagnostic ⟨0⟩).perform.Refused b' (.alreadyClosed .context) := by
  let run₁ := (Run.done (b := Bridge.start () [])).call (.createManager 16) (by decide)
  let run₂ := run₁.call (.adoptContext default ⟨0⟩ (.ofIndex 7)) (by decide)
  let run := run₂.call (.closeManager ⟨0⟩) (by decide)
  let continuation : Run _ _ := .call (.done (b := (Operation.closeManager ⟨0⟩).after
    ((Operation.adoptContext default ⟨0⟩ (.ofIndex 7)).after
      ((Operation.createManager 16).after (.start () []))))) (.createManager 16) (by decide)
  obtain ⟨-, -, -, kind, hkind, -, hrefused⟩ := run.closed_terminal continuation
    (o := .context ⟨0⟩) (r := ⟨0⟩) (by decide) (by decide) (by decide)
  obtain rfl : kind = .context := Option.some.inj hkind.symm
  exact ⟨_, _, run, continuation, by decide, by decide, by decide,
    hrefused (.errorMessage ⟨0⟩) rfl, hrefused (.diagnostic ⟨0⟩) rfl⟩

end Run

end HandleBridge
