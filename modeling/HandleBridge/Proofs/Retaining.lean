import HandleBridge.Proofs.Carving
import HandleBridge.Proofs.ClosingCalls

/-!
# Proofs/Retaining — no call overwrites what it did not allocate

Scratch memory only grows, except where a caller writes through a buffer or a region is freed.  A
call takes fresh cells, and has the native library write to these and to no others, so what was
there before it stays as it is; and it looks up the name of one job at most, and only where none is
remembered.  `Bridge.Retains` says both of a call, and `Operation.retains` says it of every call
that neither writes nor gives up a share in a region.

The relation is about the memory at some earlier time rather than at the call's start: a buffer that
lies past what there was then may be written to, so it composes.
-/

namespace HandleBridge

open HandleBridge.Action

variable {σ α β : Type}

/-! ## The relations -/

/-- Is a scope open, or has it ended?  It is neither while it is being closed. -/
def Manager.State.AtRest (s : Manager.State) : Prop := ∀ region, s.phase ≠ .ending region

/-- A closed scope that is at rest has ended. -/
theorem Manager.State.AtRest.closed_iff {s : Manager.State} (h : s.AtRest) :
    s.closed = true ↔ s.phase = .ended := by
  cases hphase : s.phase with
  | ending region => exact absurd hphase (h region)
  | live | ended => simp [closed, hphase]

/-- A scope that handed its region back is at rest. -/
theorem Manager.State.atRest_handBack (s : Manager.State) : s.handBack.AtRest := by
  intro region
  rw [handBack]
  cases s.phase <;> exact Phase.noConfusion

theorem Manager.State.AtRest.charge {s : Manager.State} (h : s.AtRest) (cells : Nat) :
    (s.charge cells).AtRest := by
  intro region hending
  cases hphase : s.phase with
  | ending region => exact h region hphase
  | live | ended =>
    rw [Manager.State.charge, hphase] at hending
    cases hending

namespace Bridge

/-- A scope changes, and stays at rest if it is. -/
theorem atRest_modifyManager (b : Bridge σ) (m : Manager) {f : Manager.State → Manager.State}
    (hf : ∀ s, s.AtRest → (f s).AtRest) (m' : Manager) (h : (b.manager m').AtRest) :
    ((b.modifyManager m f).manager m').AtRest := by
  rw [manager_modifyManager]
  split
  · rename_i heq
    exact hf _ (heq.1 ▸ h)
  · exact h

/-- **Scratch memory and the remembered names are as they were**, and no scope began to end. -/
structure Unwritten (b b' : Bridge σ) : Prop where
  scratch : b'.scratch = b.scratch
  name : ∀ j, (b'.job j).name = (b.job j).name
  atRest : ∀ m, (b.manager m).AtRest → (b'.manager m).AtRest

/-- The memory of an earlier time is still there, nobody let go of a buffer, no scope began to end,
the name of no job but one changed, and no remembered name did. -/
structure Retained (earlier : List Slot) (named : Option Job) (b b' : Bridge σ) : Prop where
  slots : earlier <+: b'.scratch.slots
  held : b.scratch.held <:+ b'.scratch.held
  atRest : ∀ m, (b.manager m).AtRest → (b'.manager m).AtRest
  name : ∀ j, named ≠ some j → (b'.job j).name = (b.job j).name
  remembered : ∀ j name, (b.job j).name = some name → (b'.job j).name = some name

/-- **Memory that is still there is retained**, and so is what is remembered. -/
def Retains (earlier : List Slot) (named : Option Job) (b b' : Bridge σ) : Prop :=
  earlier <+: b.scratch.slots → Retained earlier named b b'

variable {b b' b'' : Bridge σ} {earlier : List Slot} {named : Option Job}

namespace Unwritten

theorem refl (b : Bridge σ) : Unwritten b b := ⟨rfl, fun _ => rfl, fun _ => id⟩

instance : IsPreorder (Bridge σ) Unwritten where
  refl := refl
  trans _ _ _ h h' := ⟨h'.scratch.trans h.scratch, fun j => (h'.name j).trans (h.name j),
    fun m => h'.atRest m ∘ h.atRest m⟩

/-- A change that shows neither in scratch memory nor in the tables of jobs and scopes. -/
theorem of_eq (hscratch : b'.scratch = b.scratch) (hjobs : b'.jobs = b.jobs)
    (hmanagers : b'.managers = b.managers) : Unwritten b b' :=
  ⟨hscratch, fun j => by rw [job, hjobs, job], fun m hm => by rwa [manager, hmanagers]⟩

theorem calling : Calling (Unwritten : Bridge σ → Bridge σ → Prop) where
  machine b _ := { refl b with }
  called b _ _ := { refl b with }
  remarked b _ _ := { refl b with }

/-- A new job has no name yet. -/
theorem addJob (b : Bridge σ) {s : Job.State σ} (h : s.name = none) :
    Unwritten b (b.addJob s) := by
  refine ⟨rfl, fun j => ?_, fun _ => id⟩
  rw [job, Bridge.addJob, Table.get_add]
  split
  · rename_i hj
    rw [h, job, hj, Table.get_of_size_le _ (Nat.le_refl _)]
    rfl
  · rfl

theorem markTaken (b : Bridge σ) (j : Job) : Unwritten b (b.modifyJob j (·.markTaken)) :=
  ⟨rfl, fun j' => b.jobs.get_modify_congr _ Job.State.name j.index j'.index fun _ => rfl,
    fun _ => id⟩

/-- A new scope is open. -/
theorem addManager (b : Bridge σ) (region : Region) :
    Unwritten b (b.addManager (.ofRegion region)) := by
  refine ⟨rfl, fun _ => rfl, fun m hm => ?_⟩
  rw [manager_addManager]
  split
  · exact fun _ hlive => by cases hlive
  · exact hm

theorem modifyManager (b : Bridge σ) (m : Manager) {f : Manager.State → Manager.State}
    (hf : ∀ s, s.AtRest → (f s).AtRest) : Unwritten b (b.modifyManager m f) :=
  ⟨rfl, fun _ => rfl, b.atRest_modifyManager m hf⟩

theorem retains (h : Unwritten b b') : Retains earlier named b b' := fun hearlier =>
  ⟨h.scratch ▸ hearlier, h.scratch ▸ List.suffix_rfl, h.atRest, fun j _ => h.name j,
    fun j _ hj => (h.name j).trans hj⟩

end Unwritten

namespace Retains

instance : IsPreorder (Bridge σ) (Retains earlier named) where
  refl b := (Unwritten.refl b).retains
  trans _ _ _ h h' hearlier := by
    have hfirst := h hearlier
    have hsecond := h' hfirst.slots
    exact ⟨hsecond.slots, hfirst.held.trans hsecond.held,
      fun m => hsecond.atRest m ∘ hfirst.atRest m,
      fun j hj => (hsecond.name j hj).trans (hfirst.name j hj),
      fun j name hj => hsecond.remembered j name (hfirst.remembered j name hj)⟩

theorem calling : Calling (Retains earlier named : Bridge σ → Bridge σ → Prop) where
  machine b m := (Unwritten.calling.machine b m).retains
  called b symbol target := (Unwritten.calling.called b symbol target).retains
  remarked b r h := (Unwritten.calling.remarked b r h).retains

theorem of_eq (hscratch : b'.scratch = b.scratch) (hjobs : b'.jobs = b.jobs)
    (hmanagers : b'.managers = b.managers) : Retains earlier named b b' :=
  (Unwritten.of_eq hscratch hjobs hmanagers).retains

/-- Whoever may name no job may name one. -/
theorem widen (h : Retains earlier none b b') : Retains earlier named b b' := fun hearlier =>
  let hretained := h hearlier
  ⟨hretained.slots, hretained.held, hretained.atRest, fun j _ => hretained.name j (by simp),
    hretained.remembered⟩

end Retains

end Bridge

open Bridge

/-! ## Calls that write nothing -/

/-- A change of a scope, but for how far its life has come. -/
theorem Action.unwritten_modifyManager (m : Manager) {f : Manager.State → Manager.State}
    (hf : ∀ s, (f s).phase = s.phase) :
    (Action.update (·.modifyManager m f) : Action σ Unit).Ensures Unwritten := fun b =>
  .modifyManager b m fun s hs region => hf s ▸ hs region

theorem Action.unwritten_note (e : Event) : (Action.note e : Action σ Unit).Ensures Unwritten :=
  fun _ => .of_eq rfl rfl rfl

theorem Action.unwritten_remark (r : Remark) :
    (Action.remark r : Action σ Unit).Ensures Unwritten := Action.unwritten_note _

theorem Action.unwritten_note? (e : Option Event) :
    (Action.note? e : Action σ Unit).Ensures Unwritten := by
  cases e with
  | none => exact .pure ()
  | some e => exact Action.unwritten_note e

namespace Resource

theorem runReleaser_unwritten (r : Resource) (s : State σ) :
    (r.runReleaser s).Ensures Unwritten :=
  .bind (Action.unwritten_note? _) fun _ => .bind (Unwritten.calling.run _) fun _ =>
    .bind (Action.unwritten_note _) fun _ => .ofFailure _

theorem release_unwritten (r : Resource) : (r.release : Action σ Bool).Ensures Unwritten := by
  refine .bind (.read _) fun s => ?_
  split
  · exact .pure _
  · exact .bind (fun _ => .of_eq rfl rfl rfl) fun _ =>
      .bind (r.runReleaser_unwritten s).attempt fun _ =>
      .bind (Action.unwritten_modifyManager _ fun _ => rfl) fun _ => .bind (.read _) fun _ =>
      .bind (Action.unwritten_remark _) fun _ => .bind (.ofExcept _) fun _ => .pure _

theorem close_unwritten (r : Resource) : (r.close : Action σ Unit).Ensures Unwritten :=
  .bind r.release_unwritten fun _ => .pure _

theorem drop_unwritten (r : Resource) : (r.drop : Action σ Unit).Ensures Unwritten := by
  refine .bind (.read _) fun s => .bind r.release_unwritten.attempt fun result => ?_
  split
  · exact Action.unwritten_remark _
  · exact .pure _
  · exact Action.unwritten_remark _

theorem adopt_unwritten (m : Manager) (h : Handle) (kind : Kind) (releaser : Releaser σ) :
    (adopt m h kind releaser).Ensures Unwritten := by
  have henroll : (enroll m h kind releaser).Ensures Unwritten :=
    .bind (.read _) fun _ => .bind (.read _) fun _ => .bind (.read _) fun _ =>
      .bind (Action.unwritten_modifyManager _ fun _ => rfl) fun _ =>
      .bind (fun _ => .of_eq rfl rfl rfl) fun _ => .pure _
  refine .bind henroll fun r => .bind (.read _) fun s => .bind (.read _) fun scope => ?_
  split
  · refine .bind (fun _ => .of_eq rfl rfl rfl) fun _ =>
      .bind (r.runReleaser_unwritten s).attempt fun result => ?_
    cases result with
    | error e => exact .bind (Action.unwritten_remark _) fun _ => .fail _
    | ok _ => exact .fail _
  · exact .bind (Action.unwritten_modifyManager _ fun _ => rfl) fun _ =>
      .bind (Action.unwritten_remark _) fun _ => .pure _

end Resource

namespace Manager

theorem create_unwritten (capacity : Nat) :
    (create capacity : Action σ _).Ensures Unwritten := by
  rw [create]
  split
  · exact .pure _
  · exact .bind (.read _) fun _ => .bind (fun b => Unwritten.addManager b _) fun _ =>
      .bind (Action.unwritten_remark _) fun _ => .pure _

theorem releaseAll_unwritten (registry : Registry) (outcome : Teardown) (failures : List Failure) :
    (releaseAll registry outcome failures : Action σ _).Ensures Unwritten := by
  induction registry generalizing outcome failures with
  | nil => exact .pure _
  | cons entry rest ih =>
    refine .bind (.read _) fun s => .bind entry.2.release_unwritten.attempt fun result => ?_
    split
    · exact ih _ _
    · exact ih _ _
    · exact .bind (Action.unwritten_remark _) fun _ => ih _ _

theorem register_unwritten (m : Manager) (r : Resource) :
    (m.register r : Action σ Unit).Ensures Unwritten := by
  refine .bind (.read _) fun s => .bind (.read _) fun owner => ?_
  split
  · exact .fail _
  split
  · exact .fail _
  split
  · exact .fail _
  refine .bind (.read _) fun scope => ?_
  split
  · exact .fail _
  · exact Action.unwritten_modifyManager _ fun _ => rfl

theorem deregister_unwritten (m : Manager) (r : Resource) :
    (m.deregister r : Action σ Bool).Ensures Unwritten := by
  refine .bind (.read _) fun s => .bind (.read _) fun scope => ?_
  dsimp only
  split
  · exact .bind (Action.unwritten_modifyManager _ fun _ => rfl) fun _ =>
      .bind (Action.unwritten_remark _) fun _ => .pure _
  · exact .pure _

end Manager

/-! ## Calls that write to cells of their own -/

/-- The relation of a call that writes nothing. -/
theorem Action.Ensures.retains {x : Action σ α} {earlier : List Slot} {named : Option Job}
    (hx : x.Ensures Unwritten) : x.Ensures (Retains earlier named) :=
  hx.mono fun _ _ => Unwritten.retains

namespace Scratch

variable {s : Scratch} {earlier : List Slot} {out : Buffer}

/-- Memory that reaches no further than where a buffer begins is retained by writing to it. -/
theorem prefix_write (h : earlier <+: s.slots) (hout : earlier.length ≤ out.start) (offset : Nat)
    (cell : Cell) : earlier <+: (s.write out offset cell).slots := by
  rw [write]
  split
  · rw [List.prefix_iff_getElem?] at h ⊢
    intro i hi
    rw [List.getElem?_modify_ne _ _ (by omega), h i hi]
  · exact h

theorem held_write (s : Scratch) (out : Buffer) (offset : Nat) (cell : Cell) :
    (s.write out offset cell).held = s.held := by
  rw [write]
  split <;> rfl

/-- **Memory that grew**: there are more places, and nobody let go of a buffer. -/
structure Grown (s s' : Scratch) : Prop where
  slots : s.slots <+: s'.slots
  held : s.held <:+ s'.held

theorem Grown.refl (s : Scratch) : Grown s s := ⟨List.prefix_rfl, List.suffix_rfl⟩

theorem Grown.trans {s s' s'' : Scratch} (h : Grown s s') (h' : Grown s' s'') : Grown s s'' :=
  ⟨h.slots.trans h'.slots, h.held.trans h'.held⟩

theorem Carved.grown {s s' : Scratch} {m : Manager} (h : Carved m s s') : Grown s s' := by
  obtain ⟨cells, rfl⟩ := h
  exact ⟨List.prefix_append _ _, List.suffix_rfl⟩

theorem grown_hold (s : Scratch) (buffer : Buffer) : Grown s (s.hold buffer) :=
  ⟨List.prefix_rfl, List.suffix_cons _ _⟩

end Scratch

namespace Bridge.Retains

variable {earlier : List Slot} {named : Option Job}

theorem grow (b : Bridge σ) {s : Scratch} (h : Scratch.Grown b.scratch s) :
    Retains earlier named b (b.withScratch s) := fun hearlier =>
  ⟨hearlier.trans h.slots, h.held, fun _ => id, fun _ _ => rfl, fun _ _ => id⟩

/-- An allocation retains what was there, also one that fails. -/
theorem allocating (m : Manager) {f : Scratch → Except Failure α × Scratch}
    (hf : ∀ s, Scratch.Carved m s (f s).2) :
    (m.allocating f : Action σ α).Ensures (Retains earlier named) := by
  intro b
  rw [Manager.allocating, bind_of_ok (read_apply _ _)]
  split
  · exact Std.Refl.refl b
  · exact IsTrans.trans _ _ _ (grow b (hf b.scratch).grown)
      (Unwritten.modifyManager _ m fun _ hs => hs.charge _).retains

theorem allocate (m : Manager) (cells : List Cell) :
    (m.allocate cells : Action σ _).Ensures (Retains earlier named) :=
  allocating m fun s => .allocate s m cells

theorem put {out : Buffer} (hout : earlier.length ≤ out.start) (offset : Nat) (cell : Cell) :
    (Manager.put out offset cell : Action σ Unit).Ensures (Retains earlier named) :=
  fun b hearlier => ⟨Scratch.prefix_write hearlier hout offset cell,
    (b.scratch.held_write out offset cell) ▸ List.suffix_rfl, fun _ => id, fun _ _ => rfl,
    fun _ _ => id⟩

/-- Handing a buffer out takes none back. -/
theorem handOut (buffer : Buffer) :
    (Manager.handOut buffer : Action σ Buffer).Ensures (Retains earlier named) :=
  fun b => grow b (b.scratch.grown_hold buffer)

/-- **What is allocated now lies past the memory of every earlier time.** -/
theorem allocate_bind (m : Manager) (cells : List Cell) {f : Buffer → Action σ α}
    (hf : ∀ out, earlier.length ≤ out.start → (f out).Ensures (Retains earlier named)) :
    (m.allocate cells >>= f).Ensures (Retains earlier named) := fun b hearlier => by
  refine Ensures.bind_at (R := Retains earlier named) (allocate m cells b) (fun out hout => ?_)
    hearlier
  obtain ⟨-, heq, -⟩ := Manager.allocating_eq_ok hout
  cases heq
  exact hf _ hearlier.length_le _

theorem allocateFrom_bind (r : Resource) (cells : List Cell) {f : Buffer → Action σ α}
    (hf : ∀ out, earlier.length ≤ out.start → (f out).Ensures (Retains earlier named)) :
    (r.allocate cells >>= f).Ensures (Retains earlier named) := fun b =>
  allocate_bind (b.resource r).manager cells hf b

theorem invokeInto {out : Buffer} (hout : earlier.length ≤ out.start) (cell : α → Cell)
    (symbol : Symbol) (target : Option Handle) (call : Call σ α) :
    (HandleBridge.invokeInto out cell symbol target call).Ensures (Retains earlier named) :=
  .bind (calling.invoke symbol target call) fun _ => .bind (put hout 0 _) fun _ => .pure _

theorem query (r : Resource) (ctx : Option Context) (symbol : Symbol)
    (call : Option Handle → Option Handle → Call σ (Option Bool)) :
    (r.query ctx symbol call).Ensures (Retains earlier named) :=
  allocateFrom_bind r _ fun _ hout => Conversing.withHandle r fun _ =>
    .bind (calling.callNative ctx symbol fun _ => invokeInto hout _ symbol _ _) fun _ => .pure _

/-! ### Contexts -/

theorem field (c : Context) (symbol : Symbol) (initial : Cell) (cell : α → Cell)
    (getter : EntryPoints σ → Option Handle → Bool → Call σ α) :
    (c.field symbol initial cell getter).Ensures (Retains earlier named) := by
  refine .bind (.read _) fun s => allocateFrom_bind _ _ fun out hout =>
    Conversing.withHandle _ fun h => .bind (invokeInto hout cell symbol _ _) fun answer => ?_
  split
  · exact .pure _
  split
  · exact .pure _
  · exact .fail _

theorem diagnostic (c : Context) :
    (c.diagnostic : Action σ Diagnostic).Ensures (Retains earlier named) := by
  refine .bind (.read _) fun s => Conversing.withHandle _ fun h =>
    .bind (calling.invoke _ _ _) fun answer => ?_
  split
  · exact calling.readDiagnostic _ _ _
  · exact .fail _

theorem adoptContext (library : Library σ) (m : Manager) (h : Handle) :
    (Context.adopt library m h).Ensures (Retains earlier named) :=
  .bind (Resource.adopt_unwritten m h _ _).retains fun _ => .bind (.read _) fun _ =>
    .bind (fun _ => .of_eq rfl rfl rfl) fun _ => .pure _

theorem createContext (library : Library σ) (m : Manager) :
    (Context.create library m).Ensures (Retains earlier named) := by
  refine allocate_bind m _ fun out hout => .bind (invokeInto hout _ _ _ _) fun answer => ?_
  split
  · split
    · exact adoptContext library m _
    · exact .fail _
  · exact .fail _

/-! ### Jobs -/

theorem adoptJob (library : Library σ) (m : Manager) (h : Handle) (converter : Converter σ) :
    (Job.adopt library m h converter).Ensures (Retains earlier named) :=
  .bind (Resource.adopt_unwritten m h _ _).retains fun _ => .bind (.read _) fun _ =>
    .bind (fun b => (Unwritten.addJob b rfl).retains) fun _ => .pure _

end Bridge.Retains

/-- **A lookup asks for the name, and remembers it if it is given.** -/
theorem Job.lookUpName_cases (j : Job) (b : Bridge σ) (ctx : Option Context) :
    ∃ b₁, Quiet b b₁ ∧ (∀ earlier, Retains earlier none b b₁) ∧
      ((∃ e, j.lookUpName ctx b = (.error e, b₁)) ∨
        ∃ name, j.lookUpName ctx b = (.ok name, b₁.modifyJob j (·.remember name))) := by
  let r := (b.job j).resource
  let call (out : Buffer) (h : Handle) (c : Option Handle) : Action σ (Answer (Option StringOut)) :=
    invokeInto out .ofString .jobName (some h) ((b.job j).library.entry.jobName c (some h) true)
  let ask : Action σ (Option StringOut) := r.allocate [.ofString none] >>= fun out =>
    r.withHandle fun h => callNative ctx .jobName (call out h)
  have hquiet : ask.Ensures Quiet := .bind (.allocateFrom r _) fun out =>
    .withHandle r fun h => .callNative ctx _ fun c => .invokeInto out _ _ _ _
  have hretains (earlier : List Slot) : ask.Ensures (Retains earlier none) :=
    Retains.allocateFrom_bind r _ fun out hout => Conversing.withHandle r fun h =>
      Retains.calling.callNative ctx _ fun c => Retains.invokeInto hout _ _ _ _
  refine ⟨(ask b).2, hquiet b, fun earlier => hretains earlier b, ?_⟩
  rw [lookUpName, bind_of_ok (read_apply _ _)]
  rcases halloc : r.allocate [.ofString none] b with ⟨e | out, b₁⟩
  · have hask : ask b = (.error e, b₁) := bind_of_error halloc
    rw [hask]
    exact .inl ⟨e, bind_of_error halloc⟩
  have hask : ask b = r.withHandle (fun h => callNative ctx .jobName (call out h)) b₁ :=
    bind_of_ok halloc
  rw [hask, bind_of_ok halloc]
  rcases hcall : r.withHandle (fun h => callNative ctx .jobName (call out h)) b₁
    with ⟨e | text, b₂⟩
  · exact .inl ⟨e, bind_of_error hcall⟩
  · exact .inr ⟨(readText text.join).getD "",
      (bind_of_ok hcall).trans (bind_of_ok (update_apply _ _))⟩

namespace Bridge.Retains

variable {earlier : List Slot} {named : Option Job}

/-- A name is remembered where none was. -/
theorem remember {b : Bridge σ} {j : Job} (h : (b.job j).name = none) (name : String) :
    Retains earlier (some j) b (b.modifyJob j (·.remember name)) := by
  have hother (j' : Job) (hj : j' ≠ j) :
      (b.modifyJob j (·.remember name)).job j' = b.job j' :=
    b.jobs.get_modify_of_ne _ fun hindex => hj (congrArg Job.mk hindex.symm)
  refine fun hearlier =>
    ⟨hearlier, List.suffix_rfl, fun _ => id, fun j' hj => ?_, fun j' n hn => ?_⟩
  · rw [hother j' fun heq => hj (congrArg some heq.symm)]
  · have hne : j' ≠ j := by
      rintro rfl
      rw [h] at hn
      cases hn
    rw [hother j' hne, hn]

/-- Nothing is remembered by then, so what is looked up may be. -/
theorem lookUpName {b : Bridge σ} {j : Job} (h : (b.job j).name = none) (ctx : Option Context) :
    Retains earlier (some j) b (j.lookUpName ctx b).2 := by
  obtain ⟨b₁, -, hretains, ⟨e, heq⟩ | ⟨name, heq⟩⟩ := j.lookUpName_cases b ctx <;> rw [heq]
  · exact (hretains earlier).widen
  · refine IsTrans.trans _ b₁ _ (hretains earlier).widen (remember ?_ name)
    exact ((hretains [] List.nil_prefix).name j (by simp)).trans h

theorem name (j : Job) (ctx : Option Context) :
    (j.name ctx : Action σ _).Ensures (Retains earlier (some j)) := by
  intro b
  rw [Job.name, bind_of_ok (read_apply _ _)]
  cases hname : (b.job j).name with
  | some n => exact Std.Refl.refl b
  | none => exact lookUpName hname ctx

theorem label (j : Job) (ctx : Option Context) :
    (j.label ctx : Action σ _).Ensures (Retains earlier (some j)) := by
  refine .bind (name j ctx).attempt fun r => ?_
  split <;> exact .pure _

theorem cancelAsync (j : Job) (ctx : Option Context) :
    (j.cancelAsync ctx : Action σ _).Ensures (Retains earlier named) := by
  refine .bind (.read _) fun s => .bind (.read _) fun resource =>
    allocate_bind _ _ fun out hout => ?_
  refine .bind (Conversing.withHandle _ fun h =>
    calling.callNative ctx _ fun c => invokeInto hout _ _ _ _) fun tracker => ?_
  split
  · exact .pure _
  · exact .map (.bind (Resource.adopt_unwritten _ _ _ _).retains fun _ => .bind (.read _) fun _ =>
      .bind (fun _ => .of_eq rfl rfl rfl) fun _ => .pure _)

theorem takeNatively (s : Job.State σ) (ctx : Option Context) (h : Handle)
    {valueOut readyOut : Buffer} (hvalue : earlier.length ≤ valueOut.start)
    (hready : earlier.length ≤ readyOut.start) (mode : TakeMode) :
    (Job.takeNatively s ctx h valueOut readyOut mode).Ensures (Retains earlier named) := by
  cases mode with
  | blocking => exact .map (calling.callNative ctx _ fun c => invokeInto hvalue _ _ _ _)
  | bounded limit => exact .map (calling.callNative ctx _ fun c => invokeInto hvalue _ _ _ _)
  | ifReady =>
    refine .bind (calling.callNative ctx _ fun c => ?_) fun answer => .pure _
    exact .bind (calling.invoke _ _ _) fun _ => .bind (put hready _ _) fun _ =>
      .bind (put hvalue _ _) fun _ => .pure _

theorem takeOnce (j : Job) (ctx : Option Context) (mode : TakeMode) :
    (j.takeOnce ctx mode : Action σ _).Ensures (Retains earlier named) := by
  refine .bind (.read _) fun s => .bind (.read _) fun resource => ?_
  refine allocate_bind _ _ fun valueOut hvalue => allocate_bind _ _ fun readyOut hready =>
    Conversing.withHandle _ fun h => ?_
  split
  · exact .pure _
  refine .bind (takeNatively s ctx h hvalue hready mode) fun answer => ?_
  split
  · exact .pure _
  · exact .bind (fun b => (Unwritten.markTaken b j).retains) fun _ => .pure _

theorem convert (j : Job) (value : TakenValue) :
    (j.convert value : Action σ Yield).Ensures (Retains earlier named) := by
  have habandon : (value.abandon : Action σ Unit).Ensures (Retains earlier named) := by
    rw [TakenValue.abandon]
    split
    · exact (Action.unwritten_remark _).retains
    · exact .pure _
  refine .bind (Action.unwritten_note _).retains fun _ => .bind (.read _) fun s => ?_
  cases s.converter with
  | void => exact .bind habandon fun _ => .pure _
  | inspect => exact .bind habandon fun _ => .pure _
  | reject e => exact .bind habandon fun _ => .fail _
  | adopt kind dispose failure =>
    rw [TakenValue.convert]
    split
    · exact .fail _
    · exact .bind (Resource.adopt_unwritten _ _ _ _).retains fun _ => .pure _

theorem take? (j : Job) (ctx : Option Context) (mode : TakeMode) :
    (j.take? ctx mode : Action σ _).Ensures (Retains earlier (some j)) := by
  refine .bind (.read _) fun _ => .bind (.read _) fun _ =>
    .bind (takeOnce j ctx mode) fun found => ?_
  cases found with
  | alreadyTaken => exact .bind (label j ctx) fun _ => .fail _
  | notReady => exact .bind (Action.unwritten_remark _).retains fun _ => .pure _
  | taken value =>
    exact .bind (Action.unwritten_remark _).retains fun _ =>
      .bind (label j ctx) fun _ => .map (convert j _)

theorem takeExpecting (j : Job) (ctx : Option Context) (symbol : Symbol) (mode : TakeMode) :
    (Job.takeExpecting symbol (j.take? ctx mode) : Action σ _).Ensures
      (Retains earlier (some j)) := by
  refine .bind (take? j ctx mode) fun answer => ?_
  split
  · exact .pure _
  · exact .fail _

theorem closeJob (j : Job) (ctx : Option Context) :
    (j.close ctx : Action σ Unit).Ensures (Retains earlier named) := by
  refine .bind (.read _) fun s => .bind (.read _) fun resource => ?_
  split
  · exact .pure _
  · refine .bind (.attempt (Conversing.withHandle _ fun h => ?_)) fun closed => ?_
    · exact calling.callNative ctx _ fun c => calling.invoke _ _ _
    · exact .bind (Resource.close_unwritten _).retains.attempt fun _ => .bind (.ofExcept _) fun _ =>
        .ofExcept _

/-! ### The process -/

theorem setUpLogger (library : Library σ) (filters : String) (file : Option String) :
    (Logger.setUp library filters file).Ensures (Retains earlier named) := by
  refine .bind (.read _) fun p => ?_
  split
  · exact .bind (Action.unwritten_remark _).retains fun _ => .pure _
  refine .bind ?_ fun _ =>
    .bind (fun _ => .of_eq rfl rfl rfl) fun _ => .pure _
  refine .bind (.ofExcept _) fun _ => .bind (.ofExcept _) fun _ =>
    .bind (calling.invoke _ _ _) fun answer => ?_
  split
  · exact (Action.unwritten_remark _).retains
  · exact .fail _

theorem setUpLoggerFrom (library : Library σ) (config : Config) :
    (Logger.setUpFrom library config).Ensures (Retains earlier named) := by
  rw [Logger.setUpFrom]
  split
  · exact .pure _
  · exact setUpLogger library _ _

theorem setUpTracing : (Tracing.setUp : Action σ Bool).Ensures (Retains earlier named) := by
  refine .bind (.read _) fun p => ?_
  split
  · exact .pure _
  · exact .bind (.read _) fun _ =>
      .bind (fun _ => .of_eq rfl rfl rfl) fun _ =>
      .bind (Action.unwritten_remark _).retains fun _ => .pure _

theorem loadAnnounced (open? : Loader σ) (path : String) :
    (Library.loadAnnounced open? path).Ensures (Retains earlier named) :=
  .bind (.ofExcept _) fun _ => .bind (Action.unwritten_remark _).retains fun _ => .pure _

theorem share (open? : Loader σ) (config : Config) :
    (Library.share open? config).Ensures (Retains earlier named) := by
  refine .bind (.read _) fun p => ?_
  split
  · exact .pure _
  · exact .bind (.ofExcept _) fun _ => .bind (loadAnnounced _ _) fun _ =>
      .bind (fun _ => .of_eq rfl rfl rfl) fun _ => .pure _

theorem allocateContent (m : Manager) (content : Content) :
    (Operation.allocateContent m content : Action σ _).Ensures (Retains earlier named) :=
  Content.allocateContent_eq m content ▸ allocating m (content.carved_take m)

end Bridge.Retains

/-! ## Operations -/

namespace Operation

/-- The job whose name a call may look up. -/
def named? : {α : Type} → Operation σ α → Option Job
  | _, jobName j _ => some j
  | _, jobTake j _ => some j
  | _, jobTakeFor j _ _ => some j
  | _, jobTakeIfReady j _ => some j
  | _, _ => none

/-- The buffer that a call of the caller's writes to. -/
def written? : {α : Type} → Operation σ α → Option Buffer
  | _, write buffer _ _ => some buffer
  | _, _ => none

/-- The scope in whose region a call gives up a share. -/
def givesUp? : {α : Type} → Operation σ α → Option Manager
  | _, closeManager m => some m
  | _, close (.manager m) _ => some m
  | _, drop (.manager m) => some m
  | _, dropBuffer buffer => some buffer.region
  | _, _ => none

/-- **Every call that neither writes nor gives up a share retains the memory that was there before
it.** -/
theorem retains (op : Operation σ α) (hwrites : op.written? = none) (hshare : op.givesUp? = none)
    (b : Bridge σ) (earlier : List Slot) :
    Retains earlier op.named? b (op.after b) := by
  cases op with
  | createManager capacity => exact (Manager.create_unwritten capacity).retains b
  | closeManager m => cases hshare
  | register m r => exact (m.register_unwritten r).retains b
  | deregister m r => exact (m.deregister_unwritten r).retains b
  | allocate m content =>
    exact Ensures.bind (Retains.allocateContent m content) Retains.handOut b
  | allocateFrom r cells =>
    exact Ensures.bind (x := r.allocate cells) (fun b => Retains.allocate _ cells b)
      Retains.handOut b
  | write buffer offset cell => cases hwrites
  | dropBuffer buffer => cases hshare
  | adopt m h kind pause failure => exact (Resource.adopt_unwritten m h kind _).retains b
  | handle r => exact Conversing.withHandle r (fun h => .pure h) b
  | createContext library m => exact Retains.createContext library m b
  | adoptContext library m h => exact Retains.adoptContext library m h b
  | returnCode c => exact Ensures.map (.bind (Retains.field c _ _ _ _) fun _ => .pure _) b
  | errorType c => exact Ensures.map (.bind (Retains.field c _ _ _ _) fun _ => .pure _) b
  | errorName c => exact Ensures.bind (Retains.field c _ _ _ _) (fun _ => .pure _) b
  | errorMessage c => exact Ensures.bind (Retains.field c _ _ _ _) (fun _ => .pure _) b
  | categoryNumber c => exact Ensures.bind (Retains.field c _ _ _ _) (fun _ => .pure _) b
  | categoryText c => exact Ensures.bind (Retains.field c _ _ _ _) (fun _ => .pure _) b
  | codeNumber c => exact Ensures.bind (Retains.field c _ _ _ _) (fun _ => .pure _) b
  | structuredCode c => exact Ensures.bind (Retains.field c _ _ _ _) (fun _ => .pure _) b
  | diagnostic c => exact Retains.diagnostic c b
  | adoptJob library m h converter => exact Retains.adoptJob library m h converter b
  | jobName j ctx => exact Retains.name j ctx b
  | jobWait j ctx limit => exact Ensures.bind (.read _) (fun _ => Retains.query _ ctx _ _) b
  | jobIsDone j ctx => exact Ensures.bind (.read _) (fun _ => Retains.query _ ctx _ _) b
  | jobTake j ctx => exact Retains.takeExpecting j ctx _ _ b
  | jobTakeFor j ctx limit => exact Retains.takeExpecting j ctx _ _ b
  | jobTakeIfReady j ctx => exact Retains.take? j ctx _ b
  | jobCancel j ctx => exact Ensures.bind (.read _) (fun _ => Retains.query _ ctx _ _) b
  | jobCancelFor j ctx limit => exact Ensures.bind (.read _) (fun _ => Retains.query _ ctx _ _) b
  | jobCancelAsync j ctx => exact Retains.cancelAsync j ctx b
  | cancellationWait c ctx limit =>
    exact Ensures.bind (.read _) (fun _ => Retains.query _ ctx _ _) b
  | cancellationIsDone c ctx => exact Ensures.bind (.read _) (fun _ => Retains.query _ ctx _ _) b
  | close o ctx =>
    cases o with
    | manager m => cases hshare
    | resource r => exact r.close_unwritten.retains b
    | context c => exact (Ensures.bind (.read _) Resource.close_unwritten).retains b
    | job j => exact Retains.closeJob j ctx b
    | cancellation c => exact (Ensures.bind (.read _) Resource.close_unwritten).retains b
  | drop o =>
    cases o with
    | manager m => cases hshare
    | resource r => exact r.drop_unwritten.retains b
    | context c => exact (Ensures.bind (.read _) Resource.drop_unwritten).retains b
    | job j => exact (Ensures.bind (.read _) Resource.drop_unwritten).retains b
    | cancellation c => exact (Ensures.bind (.read _) Resource.drop_unwritten).retains b
  | outside change => exact Retains.calling.run _ b
  | setUpLogger library filters file => exact Retains.setUpLogger library filters file b
  | setUpLoggerFrom library config => exact Retains.setUpLoggerFrom library config b
  | setUpTracing => exact Retains.setUpTracing b
  | load open? path => exact Retains.loadAnnounced open? path b
  | share open? config => exact Retains.share open? config b

end Operation

end HandleBridge
