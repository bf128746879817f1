import HandleBridge.Proofs.ClosingCalls
import HandleBridge.Proofs.Evolution

/-!
# Proofs/TameCalls — every call but registering keeps registries and resources in step

One lemma for each call, from the lemmas of the calls that it is made of; what is quiet is tame, and
so is what only closes.  The calls that adopt an object need its manager to have been made, and
those that take a result change one job.
-/

namespace HandleBridge.Manager

open HandleBridge.Action

variable {σ : Type}

theorem allocating_of_closed {α : Type} {b : Bridge σ} {m : Manager}
    (h : (b.manager m).closed = true) (f : Scratch → Except Failure α × Scratch) :
    m.allocating f b = (.error .managerClosed, b) := by
  rw [allocating, bind_of_ok (read_apply _ _), if_pos h]
  rfl

theorem allocate_of_closed {b : Bridge σ} {m : Manager} (h : (b.manager m).closed = true)
    (cells : List Cell) : m.allocate cells b = (.error .managerClosed, b) :=
  allocating_of_closed h _

end HandleBridge.Manager

namespace HandleBridge.Job

open HandleBridge.Action

variable {σ : Type}

/-- A closed manager has no memory for the answer, so nothing is asked. -/
theorem takeOnce_of_closed {b : Bridge σ} {j : Job} {ctx : Option Context} {mode : TakeMode}
    (h : (b.manager (b.resource (b.job j).resource).manager).closed = true) :
    j.takeOnce ctx mode b = (.error .managerClosed, b) := by
  rw [takeOnce, bind_of_ok (read_apply _ _), bind_of_ok (read_apply _ _),
    bind_of_error (Manager.allocate_of_closed h _)]

theorem take?_of_closed {b : Bridge σ} {j : Job} {ctx : Option Context} {mode : TakeMode}
    (h : (b.manager (b.resource (b.job j).resource).manager).closed = true) :
    j.take? ctx mode b = (.error .managerClosed, b) := by
  rw [take?, bind_of_ok (read_apply _ _), bind_of_ok (read_apply _ _),
    bind_of_error (takeOnce_of_closed h)]

theorem cancelAsync_of_closed {b : Bridge σ} {j : Job} {ctx : Option Context}
    (h : (b.manager (b.resource (b.job j).resource).manager).closed = true) :
    j.cancelAsync ctx b = (.error .managerClosed, b) := by
  rw [cancelAsync, bind_of_ok (read_apply _ _), bind_of_ok (read_apply _ _),
    bind_of_error (Manager.allocate_of_closed h _)]

end HandleBridge.Job

namespace HandleBridge.Bridge.Tame

open HandleBridge.Action

variable {σ α : Type} {consumed : Option Job}

theorem quiet {x : Action σ α} (hx : x.Ensures Quiet) : x.Ensures (Tame consumed) :=
  hx.mono fun _ _ => Quiet.tame

theorem remark (r : Remark) : (Action.remark r : Action σ Unit).Ensures (Tame consumed) :=
  quiet (Quiet.remark r)

theorem closes : Closes (Tame consumed : Bridge σ → Bridge σ → Prop) where
  quiet _ _ := Quiet.tame
  retire _ _ := retire
  shut := shut
  forsake _ _ := forsake

theorem create (capacity : Nat) :
    (Manager.create capacity : Action σ _).Ensures (Tame consumed) := by
  rw [Manager.create]
  split
  · exact .pure _
  · exact .bind (.read _) fun _ => .bind (fun b => addManager b _) fun _ =>
      .bind (remark _) fun _ => .pure _

/-- An adoption ends in one of two ways. -/
theorem adopt {b : Bridge σ} {m : Manager} (hm : b.Has (.manager m)) (h : Handle) (kind : Kind)
    (releaser : Releaser σ) : Tame consumed b (Resource.adopt m h kind releaser b).2 := by
  cases hclosed : (b.manager m).closed with
  | true =>
    rw [Resource.adopt_of_closed hclosed]
    exact (reject hm h kind releaser).trans (Quiet.tell _ _).tame
  | false =>
    rw [Resource.adopt_of_open hclosed]
    exact (accept hclosed h kind releaser).trans (Quiet.remarked _ _).tame

/-! ## Calls that adopt on the way -/

/-- Is a call tame once a manager was made? -/
def Within (consumed : Option Job) (m : Manager) (x : Action σ α) : Prop :=
  ∀ b, b.Has (.manager m) → Tame consumed b (x b).2

namespace Within

variable {m : Manager} {x : Action σ α}

theorem of_ensures (hx : x.Ensures (Tame consumed)) : Within consumed m x := fun b _ => hx b

theorem map {β : Type} {f : α → β} (hx : Within consumed m x) : Within consumed m (f <$> x) :=
  fun b hm => Ensures.bind_at (hx b hm) fun _ _ => Std.Refl.refl _

theorem bind {β : Type} {f : α → Action σ β} (hx : x.Ensures (Tame consumed))
    (hf : ∀ a, Within consumed m (f a)) : Within consumed m (x >>= f) := by
  intro b hm
  suffices hbind : b.WellFormed → Tame consumed b ((x >>= f) b).2 from fun h => hbind h h
  exact fun h => Ensures.bind_at (hx b) fun a _ => hf a _ ((hx b h).2.has _ hm)

/-- What is done with an adopted resource is done after the manager took part. -/
theorem adopt {h : Handle} {kind : Kind} {releaser : Releaser σ} {f : Resource → Action σ α}
    (hf : ∀ r, (f r).Ensures (Tame consumed)) :
    Within consumed m (Resource.adopt m h kind releaser >>= f) :=
  fun _ hm => Ensures.bind_at (Tame.adopt hm _ _ _) fun r _ => hf r _

end Within

theorem ofAllocation {m : Manager} {cells : List Cell} {f : Buffer → Action σ α}
    (hf : ∀ out, Within consumed m (f out)) :
    (m.allocate cells >>= f).Ensures (Tame consumed) := by
  intro b
  cases hm : (b.manager m).closed with
  | true =>
    rw [bind_of_error (Manager.allocate_of_closed hm _)]
    exact Std.Refl.refl b
  | false => exact Within.bind (quiet (.allocate m cells)) hf b (has_of_manager_open hm)

theorem addContext (s : Context.State σ) :
    (Action.update (·.addContext s) : Action σ Unit).Ensures (Tame consumed) := by
  refine fun b => of_outline (fun o ho => ?_) rfl (fun _ => rfl) rfl rfl (fun _ _ => rfl)
    fun _ _ => rfl
  cases o with
  | context c => exact Nat.lt_of_lt_of_eq (Nat.lt_succ_of_lt ho) (Table.size_add _ _).symm
  | _ => exact ho

theorem addCancellation (s : Cancellation.State σ) :
    (Action.update (·.addCancellation s) : Action σ Unit).Ensures (Tame consumed) := by
  refine fun b => of_outline (fun o ho => ?_) rfl (fun _ => rfl) rfl rfl (fun _ _ => rfl)
    fun _ _ => rfl
  cases o with
  | cancellation c => exact Nat.lt_of_lt_of_eq (Nat.lt_succ_of_lt ho) (Table.size_add _ _).symm
  | _ => exact ho

/-- The result of a new job was not taken. -/
theorem addJob {s : Job.State σ} (hs : s.taken = false) :
    (Action.update (·.addJob s) : Action σ Unit).Ensures (Tame consumed) := by
  refine fun b => of_outline (fun o ho => ?_) rfl (fun _ => rfl) rfl rfl (fun j _ => ?_)
    fun _ _ => rfl
  · cases o with
    | job j => exact Nat.lt_of_lt_of_eq (Nat.lt_succ_of_lt ho) (Table.size_add _ _).symm
    | _ => exact ho
  · rw [update_apply, job_addJob]
    split
    · rename_i hj
      rw [hs, hj, Bridge.job, b.jobs.get_of_size_le (Nat.le_refl _)]
      rfl
    · rfl

theorem adoptContext (library : Library σ) (m : Manager) (h : Handle) :
    Within consumed m (Context.adopt library m h) :=
  Within.adopt fun _ => .bind (.read _) fun _ => .bind (addContext _) fun _ => .pure _

theorem createContext (library : Library σ) (m : Manager) :
    Within consumed m (Context.create library m) := by
  refine .bind (quiet (.allocate m _)) fun out => .bind (quiet (.invokeInto _ _ _ _ _))
    fun answer => ?_
  split
  · split
    · exact adoptContext library m _
    · exact .of_ensures (.fail _)
  · exact .of_ensures (.fail _)

theorem adoptJob (library : Library σ) (m : Manager) (h : Handle) (converter : Converter σ) :
    Within consumed m (Job.adopt library m h converter) :=
  Within.adopt fun _ => .bind (.read _) fun _ => .bind (addJob rfl) fun _ => .pure _

theorem adoptCancellation (library : Library σ) (m : Manager) (h : Handle) :
    Within consumed m (Cancellation.adopt library m h) :=
  Within.adopt fun _ => .bind (.read _) fun _ => .bind (addCancellation _) fun _ => .pure _

/-! ## Jobs -/

theorem cancelAsync (j : Job) (ctx : Option Context) :
    (j.cancelAsync ctx : Action σ _).Ensures (Tame consumed) := by
  refine .bind (.read _) fun s => .bind (.read _) fun resource => ofAllocation fun out => ?_
  refine .bind (quiet (.withHandle _ fun h => ?_)) fun tracker => ?_
  · exact .callNative ctx _ fun c => .invokeInto _ _ _ _ _
  · split
    · exact .of_ensures (.pure _)
    · exact .map (adoptCancellation _ _ _)

theorem markTaken (j : Job) :
    (Action.update (·.modifyJob j (·.markTaken)) : Action σ Unit).Ensures (Tame (some j)) := by
  refine fun b => of_outline (fun o ho => ?_) rfl (fun _ => rfl) rfl rfl (fun j' hj' => ?_)
    fun _ _ => rfl
  · cases o with
    | job j => exact Nat.lt_of_lt_of_eq ho (Table.size_modify _ _ _).symm
    | _ => exact ho
  · rw [update_apply, job_modifyJob, if_neg]
    rintro ⟨rfl, -⟩
    exact hj' rfl

theorem converted (j : Job) (value : Option Handle) :
    (Action.note (.converted j value) : Action σ Unit).Ensures (Tame (some j)) := by
  refine fun b => of_outline (fun _ => id) rfl (fun _ => rfl) rfl ?_ (fun _ _ => rfl)
    fun j' hj' => ?_
  · simp [Bridge.releases, Bridge.note, Event.release?]
  · have hne : j ≠ j' := fun heq => hj' (congrArg some heq)
    simp [Bridge.conversionsOf, Bridge.conversions, Bridge.note, Event.conversion?, hne]

theorem takeOnce (j : Job) (ctx : Option Context) (mode : TakeMode) :
    (j.takeOnce ctx mode : Action σ _).Ensures (Tame (some j)) := by
  refine .bind (.read _) fun s => .bind (.read _) fun resource => ?_
  refine .bind (quiet (.allocate _ _)) fun valueOut => .bind (quiet (.allocate _ _))
    fun readyOut => ?_
  refine .bind (.read _) fun r => ?_
  split
  · exact .fail _
  split
  · exact .pure _
  · refine .bind (quiet (.takeNatively _ _ _ _ _ _)) fun answer => ?_
    split
    · exact .pure _
    · exact .bind (markTaken j) fun _ => .pure _

theorem convert (value : TakenValue) (converter : Converter σ) :
    Within consumed value.manager (value.convert converter) := by
  rcases hkept : value.kept converter with _ | h
  · exact .of_ensures (quiet (.convert hkept))
  · obtain ⟨kind, releaser, heq⟩ := TakenValue.convert_of_kept hkept
    rw [heq]
    exact Within.adopt fun _ => .pure _

/-- A take changes the job whose result it takes, and may put the result under management. -/
theorem take? (j : Job) (ctx : Option Context) (mode : TakeMode) :
    (j.take? ctx mode : Action σ _).Ensures (Tame (some j)) := by
  intro b
  cases hm : (b.manager (b.resource (b.job j).resource).manager).closed with
  | true =>
    rw [Job.take?_of_closed hm]
    exact Std.Refl.refl b
  | false =>
    rw [Job.take?, bind_of_ok (read_apply _ _), bind_of_ok (read_apply _ _)]
    refine Within.bind (takeOnce j ctx mode) (fun answer => ?_) b (has_of_manager_open hm)
    cases answer with
    | alreadyTaken => exact .of_ensures (.bind (quiet (.label j ctx)) fun _ => .fail _)
    | notReady => exact .of_ensures (.bind (remark _) fun _ => .pure _)
    | taken value =>
      refine .bind (remark _) fun _ => .bind (quiet (.label j ctx)) fun label => .map ?_
      exact .bind (converted j value) fun _ => .bind (.read _) fun s =>
        convert ⟨value, (b.resource (b.job j).resource).manager, _, label⟩ s.converter

theorem takeExpecting (symbol : Symbol) {take : Action σ (Option Yield)}
    (htake : take.Ensures (Tame consumed)) :
    (Job.takeExpecting symbol take).Ensures (Tame consumed) := by
  refine .bind htake fun answer => ?_
  split
  · exact .pure _
  · exact .fail _

end HandleBridge.Bridge.Tame

namespace HandleBridge.Operation

variable {σ : Type}

/-! ## Operations -/

/-- The job whose result a call may take. -/
def consumed : {α : Type} → Operation σ α → Option Job
  | _, jobTake j _ => some j
  | _, jobTakeFor j _ _ => some j
  | _, jobTakeIfReady j _ => some j
  | _, _ => none

/-- Does a call change a registry and nothing else? -/
def rebooks : {α : Type} → Operation σ α → Bool
  | _, register _ _ => true
  | _, deregister _ _ => true
  | _, _ => false

/-- **Every call but registering is tame.** -/
theorem tame {α : Type} (op : Operation σ α) (hop : op.rebooks = false) {b : Bridge σ}
    (known : op.Known b) : Bridge.Tame op.consumed b (op.after b) := by
  cases hasks : op.asks with
  | true => exact (op.quiet hasks b).tame
  | false =>
    cases op with
    | createManager capacity => exact Bridge.Tame.create capacity b
    | closeManager m => exact Bridge.Tame.closes.closeManager m b
    | adopt m h kind pause failure => exact Bridge.Tame.adopt (known _ (.head _)) h kind _
    | createContext library m => exact Bridge.Tame.createContext library m b (known _ (.head _))
    | adoptContext library m h => exact Bridge.Tame.adoptContext library m h b (known _ (.head _))
    | adoptJob library m h converter =>
      exact Bridge.Tame.adoptJob library m h converter b (known _ (.head _))
    | jobTake j ctx => exact Bridge.Tame.takeExpecting _ (Bridge.Tame.take? j ctx _) b
    | jobTakeFor j ctx limit => exact Bridge.Tame.takeExpecting _ (Bridge.Tame.take? j ctx _) b
    | jobTakeIfReady j ctx => exact Bridge.Tame.take? j ctx _ b
    | jobCancelAsync j ctx => exact Bridge.Tame.cancelAsync j ctx b
    | close o ctx => exact Bridge.Tame.closes.closeObject ctx o b
    | drop o => exact Bridge.Tame.closes.dropObject o b
    | register m r => exact Bool.noConfusion hop
    | deregister m r => exact Bool.noConfusion hop
    | _ => exact Bool.noConfusion hasks

end HandleBridge.Operation
