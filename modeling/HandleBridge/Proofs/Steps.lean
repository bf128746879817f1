import HandleBridge.Proofs.Carving
import HandleBridge.Proofs.Evolution
import Mathlib.Logic.Relation

/-!
# Proofs/Steps — the changes that every call is made of

A call changes the bridge step by step: something quiet happens, the native library moves the
machine, a scope comes or goes, a resource is adopted or retired, a wrapper is made for a resource
that was just accepted, a result is consumed.  `Step` says what each of these does and when it can
happen.  The `Terms` leave open what only the caller and the native library know; under any terms
objects remain what they are (`Step.remains`), and what was adopted on the terms stays on them
(`Step.served`).
-/

namespace HandleBridge

variable {σ : Type}

/-! ## Terms -/

/-- The terms on which a bridge is used: how the native library may move the machine when it is
called, where objects may come from, and how values may be disposed of. -/
structure Terms (σ : Type) where
  moves : Symbol → Machine σ → Machine σ → Prop
  outside : Machine σ → Machine σ → Prop
  library : Library σ → Prop
  dispose : (Handle → Machine σ → Machine σ) → Prop

/-- What is done with a context in the end. -/
def Context.releaser (library : Library σ) : Releaser σ :=
  .native (some .contextDispose) (fun h => library.entry.contextDispose (some h)) none

/-- What is done with a job in the end. -/
def Job.releaser (library : Library σ) : Releaser σ :=
  .native (some .jobDispose) (fun h => library.entry.jobDispose (some h)) none

/-- What is done with a cancel request in the end. -/
def Cancellation.releaser (library : Library σ) : Releaser σ :=
  .native (some .cancelJobDispose) (fun h => library.entry.cancelJobDispose (some h)) none

namespace Terms

/-- No terms at all. -/
def any : Terms σ := ⟨fun _ _ _ => True, fun _ _ => True, fun _ => True, fun _ => True⟩

variable (T : Terms σ)

/-- The release actions that resources of a kind are adopted with. -/
inductive Releases : Kind → Releaser σ → Prop where
  | scripted (kind : Kind) (pause : Nat) (failure : Option Failure) :
      Releases kind (.scripted pause failure)
  | context {library : Library σ} (h : T.library library) :
      Releases .context (Context.releaser library)
  | job {library : Library σ} (h : T.library library) : Releases .job (Job.releaser library)
  | cancellation {library : Library σ} (h : T.library library) :
      Releases .cancelJob (Cancellation.releaser library)
  | value {dispose : Handle → Machine σ → Machine σ} (h : T.dispose dispose) (kind : Kind)
      (failure : Option Failure) : Releases kind (.native none dispose failure)

/-- Does a converter dispose of values on the terms? -/
def Converts : Converter σ → Prop
  | .adopt _ dispose _ => T.dispose dispose
  | _ => True

end Terms

namespace Bridge

/-- Was a resource made, with a kind and a release action? -/
def Wraps (b : Bridge σ) (r : Resource) (kind : Kind) (releaser : Releaser σ) : Prop :=
  b.Has (.resource r) ∧ (b.resource r).kind = kind ∧ (b.resource r).releaser = releaser

/-- Was an object adopted on the terms, and as its sort is adopted? -/
def Serves (T : Terms σ) (b : Bridge σ) : Object → Prop
  | .manager _ => True
  | .resource r => T.Releases (b.resource r).kind (b.resource r).releaser
  | .context c => let s := b.context c
    T.library s.library ∧ b.Wraps s.resource .context (Context.releaser s.library)
  | .job j => let s := b.job j
    (T.library s.library ∧ T.Converts s.converter) ∧
      b.Wraps s.resource .job (Job.releaser s.library)
  | .cancellation c => let s := b.cancellation c
    T.library s.library ∧ b.Wraps s.resource .cancelJob (Cancellation.releaser s.library)

/-- Were all objects adopted on the terms? -/
def Served (T : Terms σ) (b : Bridge σ) : Prop := ∀ o, b.Has o → b.Serves T o

theorem Served.start (T : Terms σ) (native : σ) (env : Environment) :
    (Bridge.start native env).Served T := by
  intro o ho
  cases o <;> exact absurd ho (Nat.not_lt_zero _)

/-- What was adopted on terms was adopted on all that allow as much. -/
theorem Served.mono {T T' : Terms σ} {b : Bridge σ} (h : b.Served T)
    (hlibrary : ∀ l, T.library l → T'.library l) (hdispose : ∀ f, T.dispose f → T'.dispose f) :
    b.Served T' := by
  intro o ho
  have hserves := h o ho
  cases o with
  | manager m => exact trivial
  | resource r =>
    change T.Releases (b.resource r).kind (b.resource r).releaser at hserves
    change T'.Releases (b.resource r).kind (b.resource r).releaser
    generalize (b.resource r).kind = kind, (b.resource r).releaser = releaser at hserves
    cases hserves with
    | scripted kind pause failure => exact .scripted kind pause failure
    | context h => exact .context (hlibrary _ h)
    | job h => exact .job (hlibrary _ h)
    | cancellation h => exact .cancellation (hlibrary _ h)
    | value h kind failure => exact .value (hdispose _ h) kind failure
  | context c => exact ⟨hlibrary _ hserves.1, hserves.2⟩
  | job j =>
    obtain ⟨⟨hl, hconverts⟩, hwraps⟩ := hserves
    refine ⟨⟨hlibrary _ hl, ?_⟩, hwraps⟩
    generalize (b.job j).converter = converter at hconverts
    cases converter with
    | adopt kind dispose failure => exact hdispose _ hconverts
    | _ => exact trivial
  | cancellation c => exact ⟨hlibrary _ hserves.1, hserves.2⟩

end Bridge

/-! ## Steps -/

/-- Scratch memory is as it was, and every scope that had a region still has it. -/
structure Bridge.SameRegions (b b' : Bridge σ) : Prop where
  scratch : b'.scratch = b.scratch
  ended : ∀ m, (b'.manager m).phase = .ended ↔ (b.manager m).phase = .ended

theorem Bridge.SameRegions.of_eq {b b' : Bridge σ} (hscratch : b'.scratch = b.scratch)
    (hmanagers : b'.managers = b.managers) : SameRegions b b' :=
  ⟨hscratch, fun m => by rw [manager, hmanagers, manager]⟩

/-- A scope changes, and keeps its region if it has it. -/
theorem Bridge.ended_modifyManager (b : Bridge σ) (m : Manager)
    {f : Manager.State → Manager.State} (hf : ∀ s, (f s).phase = .ended ↔ s.phase = .ended)
    (m' : Manager) :
    ((b.modifyManager m f).manager m').phase = .ended ↔ (b.manager m').phase = .ended := by
  rw [manager_modifyManager]
  split
  · rename_i h
    rw [h.1]
    exact hf _
  · exact Iff.rfl

theorem Bridge.ended_charge (b : Bridge σ) (m : Manager) (cells : Nat) (m' : Manager) :
    ((b.modifyManager m (·.charge cells)).manager m').phase = .ended ↔
      (b.manager m').phase = .ended :=
  b.ended_modifyManager m (fun s => s.phase.map_eq_ended _) m'

/-- **One change of the bridge.** -/
inductive Step (T : Terms σ) : Bridge σ → Bridge σ → Prop where
  /-- The process, the journal, the size of a region or a remembered name changes. -/
  | still {b b' : Bridge σ} (quiet : Quiet b b') (machine : b'.machine = b.machine)
      (regions : b.SameRegions b') : Step T b b'
  | carve {b : Bridge σ} {m : Manager} (hm : (b.manager m).closed = false) {s : Scratch}
      (hs : Scratch.Carved m b.scratch s) : Step T b (b.withScratch s)
  | hold {b : Bridge σ} {buffer : Buffer} (h : b.Owned buffer.region) :
      Step T b (b.withScratch (b.scratch.hold buffer))
  | write (b : Bridge σ) (buffer : Buffer) (offset : Nat) (cell : Cell) :
      Step T b (b.withScratch (b.scratch.write buffer offset cell))
  | letGo (b : Bridge σ) (buffer : Buffer) : Step T b (b.letGo buffer)
  | handBack (b : Bridge σ) (m : Manager) : Step T b (b.handBack m)
  | call {b : Bridge σ} {symbol : Symbol} {m : Machine σ} (h : T.moves symbol b.machine m)
      (target : Option Handle) : Step T b ((b.note (.called symbol target)).withMachine m)
  | outside {b : Bridge σ} {m : Machine σ} (h : T.outside b.machine m) : Step T b (b.withMachine m)
  | create (b : Bridge σ) (region : Region) : Step T b (b.addManager (.ofRegion region))
  | shut (b : Bridge σ) (m : Manager) : Step T b (b.modifyManager m (·.shut))
  | forsake {b : Bridge σ} {m : Manager} (h : (b.manager m).closed = true) :
      Step T b (b.modifyManager m (·.forsake))
  | enter {b : Bridge σ} {m : Manager} {r : Resource} (hr : (b.resource r).closed = false)
      (howner : (b.resource r).manager = m) (hm : (b.manager m).closed = false) :
      Step T b (b.modifyManager m (·.enter (b.resource r).id r))
  | withdraw (b : Bridge σ) (m : Manager) (id : Nat) : Step T b (b.modifyManager m (·.withdraw id))
  | accept {b : Bridge σ} {m : Manager} (hm : (b.manager m).closed = false) (h : Handle)
      {kind : Kind} {releaser : Releaser σ} (hr : T.Releases kind releaser) :
      Step T b (b.accept m h kind releaser)
  | reject {b : Bridge σ} {m : Manager} (hm : (b.manager m).closed = true) (h : Handle)
      {kind : Kind} {releaser : Releaser σ} (hr : T.Releases kind releaser) :
      Step T b (b.reject m h kind releaser)
  | retire {b : Bridge σ} {r : Resource} (hr : (b.resource r).closed = false) :
      Step T b (b.retire r)
  | context {b : Bridge σ} {s : Context.State σ} (hl : T.library s.library)
      (hr : b.Wraps s.resource .context (Context.releaser s.library)) : Step T b (b.addContext s)
  | job {b : Bridge σ} {s : Job.State σ} (hl : T.library s.library) (hc : T.Converts s.converter)
      (hr : b.Wraps s.resource .job (Job.releaser s.library)) (taken : s.taken = false) :
      Step T b (b.addJob s)
  | cancellation {b : Bridge σ} {s : Cancellation.State σ} (hl : T.library s.library)
      (hr : b.Wraps s.resource .cancelJob (Cancellation.releaser s.library)) :
      Step T b (b.addCancellation s)
  | take (b : Bridge σ) (j : Job) : Step T b (b.modifyJob j (·.markTaken))
  | convert (b : Bridge σ) (j : Job) (value : Option Handle) :
      Step T b (b.note (.converted j value))

/-! ## What remains -/

namespace Bridge

theorem has_modifyManager (b : Bridge σ) (m : Manager) (f : Manager.State → Manager.State)
    (o : Object) : (b.modifyManager m f).Has o ↔ b.Has o := by
  cases o with
  | manager m' => rw [Has, Bridge.modifyManager, Table.size_modify, Has]
  | _ => exact Iff.rfl

theorem has_settle (b : Bridge σ) (r : Resource) (o : Object) :
    (b.settle r).Has o ↔ b.Has o := by
  cases o with
  | resource r' => rw [Has, Bridge.settle, Table.size_modify, Has]
  | _ => exact Iff.rfl

/-- **Objects remain what they are**: only whether they are open and what is known about a job
changes. -/
structure Remains (b b' : Bridge σ) : Prop extends Endures b b' where
  context : ∀ c, b.Has (.context c) → b'.context c = b.context c
  cancellation : ∀ c, b.Has (.cancellation c) → b'.cancellation c = b.cancellation c
  job : ∀ j, b.Has (.job j) → (b'.job j).resource = (b.job j).resource ∧
    (b'.job j).library = (b.job j).library ∧ (b'.job j).converter = (b.job j).converter

namespace Remains

variable {b b' b'' : Bridge σ}

theorem refl (b : Bridge σ) : Remains b b :=
  ⟨.refl b, fun _ _ => rfl, fun _ _ => rfl, fun _ _ => ⟨rfl, rfl, rfl⟩⟩

theorem trans (h : Remains b b') (h' : Remains b' b'') : Remains b b'' where
  toEndures := h.toEndures.trans h'.toEndures
  context c hc := (h'.context c (h.has _ hc)).trans (h.context c hc)
  cancellation c hc := (h'.cancellation c (h.has _ hc)).trans (h.cancellation c hc)
  job j hj := by
    obtain ⟨hr, hl, hconverter⟩ := h.job j hj
    obtain ⟨hr', hl', hconverter'⟩ := h'.job j (h.has _ hj)
    exact ⟨hr'.trans hr, hl'.trans hl, hconverter'.trans hconverter⟩

instance : IsPreorder (Bridge σ) Remains where
  refl := refl
  trans _ _ _ := trans

/-- A change that no wrapper shows in. -/
theorem of_endures (h : Endures b b') (hcontexts : b'.contexts = b.contexts)
    (hjobs : b'.jobs = b.jobs) (hcancellations : b'.cancellations = b.cancellations) :
    Remains b b' where
  toEndures := h
  context c _ := congrArg (·.get c.index) hcontexts
  cancellation c _ := congrArg (·.get c.index) hcancellations
  job _ _ := by simp [Bridge.job, hjobs]

theorem quiet (h : Quiet b b') : Remains b b' where
  toEndures := h.endures
  context c _ := congrArg (·.get c.index) h.contexts
  cancellation c _ := congrArg (·.get c.index) h.cancellations
  job j _ := ⟨h.jobResource j,
    show (b'.job j).unnamed.library = _ from h.unnamed j ▸ rfl, h.jobConverter j⟩

theorem addManager (b : Bridge σ) (s : Manager.State) : Remains b (b.addManager s) := by
  refine of_endures ⟨fun o ho => ?_, fun _ _ => .inl rfl, fun m hm hclosed => ?_⟩ rfl rfl rfl
  · cases o with
    | manager m => exact Nat.lt_of_lt_of_eq (Nat.lt_succ_of_lt ho) (Table.size_add _ _).symm
    | _ => exact ho
  · rw [manager_addManager, if_neg]
    · exact hclosed
    · rintro rfl
      exact Nat.lt_irrefl _ hm

/-- A change of a scope that keeps it closed if it is. -/
theorem modifyManager (b : Bridge σ) (m : Manager) {f : Manager.State → Manager.State}
    (hf : ∀ s, s.closed = true → (f s).closed = true) : Remains b (b.modifyManager m f) := by
  refine of_endures ⟨fun o => (has_modifyManager b m f o).2, fun _ _ => .inl rfl,
    fun m' _ hm' => ?_⟩ rfl rfl rfl
  rw [manager_modifyManager]
  split
  · rename_i h
    exact hf _ (h.1 ▸ hm')
  · exact hm'

theorem enroll (b : Bridge σ) (m : Manager) (h : Handle) (kind : Kind) (releaser : Releaser σ) :
    Remains b (b.enroll m h kind releaser) :=
  of_endures ⟨fun _ => has_enroll b m h kind releaser,
    fun _ hr => .inl (b.resource_enroll_of_ne m h kind releaser (ne_next hr)),
    fun m' _ hm' => (b.closed_enroll m m' h kind releaser).trans hm'⟩ rfl rfl rfl

theorem settle (b : Bridge σ) (r : Resource) : Remains b (b.settle r) := by
  refine of_endures ⟨fun o => (has_settle b r o).2, fun r' _ => ?_, fun _ _ hm => hm⟩ rfl rfl rfl
  rw [resource_settle]
  split
  · rename_i heq
    exact .inr (heq ▸ rfl)
  · exact .inl rfl

theorem addContext (b : Bridge σ) (s : Context.State σ) : Remains b (b.addContext s) := by
  refine ⟨⟨fun o ho => ?_, fun _ _ => .inl rfl, fun _ _ hm => hm⟩, fun c hc => ?_,
    fun _ _ => rfl, fun _ _ => ⟨rfl, rfl, rfl⟩⟩
  · cases o with
    | context c => exact Nat.lt_of_lt_of_eq (Nat.lt_succ_of_lt ho) (Table.size_add _ _).symm
    | _ => exact ho
  · exact b.contexts.get_add_of_lt s hc

theorem addCancellation (b : Bridge σ) (s : Cancellation.State σ) :
    Remains b (b.addCancellation s) := by
  refine ⟨⟨fun o ho => ?_, fun _ _ => .inl rfl, fun _ _ hm => hm⟩, fun _ _ => rfl,
    fun c hc => ?_, fun _ _ => ⟨rfl, rfl, rfl⟩⟩
  · cases o with
    | cancellation c => exact Nat.lt_of_lt_of_eq (Nat.lt_succ_of_lt ho) (Table.size_add _ _).symm
    | _ => exact ho
  · exact b.cancellations.get_add_of_lt s hc

theorem addJob (b : Bridge σ) (s : Job.State σ) : Remains b (b.addJob s) := by
  refine ⟨⟨fun o ho => ?_, fun _ _ => .inl rfl, fun _ _ hm => hm⟩, fun _ _ => rfl,
    fun _ _ => rfl, fun j hj => ?_⟩
  · cases o with
    | job j => exact Nat.lt_of_lt_of_eq (Nat.lt_succ_of_lt ho) (Table.size_add _ _).symm
    | _ => exact ho
  · rw [show (b.addJob s).job j = b.job j from b.jobs.get_add_of_lt s hj]
    exact ⟨rfl, rfl, rfl⟩

theorem markTaken (b : Bridge σ) (j : Job) : Remains b (b.modifyJob j (·.markTaken)) := by
  refine ⟨⟨fun o ho => ?_, fun _ _ => .inl rfl, fun _ _ hm => hm⟩, fun _ _ => rfl,
    fun _ _ => rfl, fun j' _ => ?_⟩
  · cases o with
    | job j' => rwa [Has, Bridge.modifyJob, Table.size_modify]
    | _ => exact ho
  · exact ⟨b.jobs.get_modify_congr _ Job.State.resource _ _ fun _ => rfl,
      b.jobs.get_modify_congr _ Job.State.library _ _ fun _ => rfl,
      b.jobs.get_modify_congr _ Job.State.converter _ _ fun _ => rfl⟩

/-- An object wraps what it wrapped. -/
theorem wrapped? (h : Remains b b') {o : Object} (ho : b.Has o) : b'.wrapped? o = b.wrapped? o := by
  cases o with
  | manager m => rfl
  | resource r => rfl
  | context c => exact congrArg (some ·.resource) (h.context c ho)
  | job j => exact congrArg some (h.job j ho).1
  | cancellation c => exact congrArg (some ·.resource) (h.cancellation c ho)

theorem kind (h : Remains b b') {r : Resource} (hr : b.Has (.resource r)) :
    (b'.resource r).kind = (b.resource r).kind := by
  rcases h.kept r hr with heq | heq <;> rw [heq]
  rfl

theorem releaser (h : Remains b b') {r : Resource} (hr : b.Has (.resource r)) :
    (b'.resource r).releaser = (b.resource r).releaser := by
  rcases h.kept r hr with heq | heq <;> rw [heq]
  rfl

theorem wraps (h : Remains b b') {r : Resource} {kind : Kind} {releaser : Releaser σ}
    (hr : b.Wraps r kind releaser) : b'.Wraps r kind releaser :=
  ⟨h.has _ hr.1, (h.kind hr.1).trans hr.2.1, (h.releaser hr.1).trans hr.2.2⟩

/-- What was adopted on the terms stays on them. -/
theorem serves (h : Remains b b') {T : Terms σ} {o : Object} (ho : b.Has o) (hs : b.Serves T o) :
    b'.Serves T o := by
  cases o with
  | manager m => exact trivial
  | resource r => rwa [Serves, h.kind ho, h.releaser ho]
  | context c =>
    rw [Serves, h.context c ho]
    exact ⟨hs.1, h.wraps hs.2⟩
  | job j =>
    obtain ⟨hr, hl, hc⟩ := h.job j ho
    rw [Serves, hr, hl, hc]
    exact ⟨hs.1, h.wraps hs.2⟩
  | cancellation c =>
    rw [Serves, h.cancellation c ho]
    exact ⟨hs.1, h.wraps hs.2⟩

end Remains

/-! ## What is new -/

/-- The place that is new in a table is the one after its last. -/
theorem eq_size_of_add {α : Type} {t : Table α} {a : α} {i : Nat} (h : i < (t.add a).size)
    (hnew : ¬ i < t.size) : i = t.size :=
  Nat.le_antisymm (Nat.le_of_lt_succ (Nat.lt_of_lt_of_eq h (t.size_add a))) (Nat.le_of_not_lt hnew)

theorem eq_next_of_enroll {b : Bridge σ} {m : Manager} {h : Handle} {kind : Kind}
    {releaser : Releaser σ} {o : Object} (ho : (b.enroll m h kind releaser).Has o)
    (hnew : ¬ b.Has o) : o = .resource b.next := by
  cases o with
  | manager m' => exact absurd ((has_modifyManager b m _ (.manager m')).1 ho) hnew
  | resource r => exact congrArg (Object.resource ∘ Resource.mk) (eq_size_of_add ho hnew)
  | _ => exact absurd ho hnew

end Bridge

namespace Step

open Bridge

variable {T : Terms σ} {b b' : Bridge σ}

theorem remarked (b : Bridge σ) (r : Remark) : Step T b (b.note (.remarked r)) :=
  .still (.remarked b r) rfl (.of_eq rfl rfl)

theorem tell (b : Bridge σ) (r : Option Remark) : Step T b (b.tell r) := by
  refine .still (.tell b r) (machine_tell b r) ?_
  rw [tell_eq]
  exact .of_eq rfl rfl

theorem charge (b : Bridge σ) (m : Manager) (cells : Nat) :
    Step T b (b.modifyManager m (·.charge cells)) :=
  .still (.charge b m cells) rfl ⟨rfl, b.ended_charge m cells⟩

/-- **After a step objects are what they were.** -/
theorem remains (h : Step T b b') : Remains b b' := by
  cases h with
  | still quiet => exact .quiet quiet
  | carve | hold | write => exact .quiet (.withScratch b _)
  | letGo buffer => exact .quiet (.letGo b buffer)
  | handBack m => exact .quiet (.handBack b m)
  | call => exact .quiet ((Quiet.called b _ _).trans (.withMachine _ _))
  | outside => exact .quiet (.withMachine b _)
  | create region => exact .addManager b _
  | shut m => exact .modifyManager b m fun s _ => s.closed_shut
  | forsake => exact .modifyManager b _ fun _ => id
  | enter => exact .modifyManager b _ fun _ => id
  | withdraw m number => exact .modifyManager b m fun _ => id
  | accept hm handle hr =>
    exact (Remains.enroll b _ handle _ _).trans (.modifyManager _ _ fun _ => id)
  | reject hm handle hr => exact (Remains.enroll b _ handle _ _).trans (.settle _ _)
  | retire => exact (Remains.settle b _).trans (.modifyManager _ _ fun _ => id)
  | context => exact .addContext b _
  | job => exact .addJob b _
  | cancellation => exact .addCancellation b _
  | take j => exact .markTaken b j
  | convert j value =>
    exact .of_endures ⟨fun _ => id, fun _ _ => .inl rfl, fun _ _ => id⟩ rfl rfl rfl

/-- What is new after a step was adopted on the terms. -/
theorem serves_new (h : Step T b b') {o : Object} (ho : b'.Has o) (hnew : ¬ b.Has o) :
    b'.Serves T o := by
  cases h with
  | still quiet => exact absurd ((quiet.has o).1 ho) hnew
  | carve | hold | write => exact absurd ho hnew
  | letGo buffer => exact absurd (((Quiet.letGo b buffer).has o).1 ho) hnew
  | handBack m => exact absurd (((Quiet.handBack b m).has o).1 ho) hnew
  | call | outside => exact absurd ho hnew
  | create region =>
    cases o with
    | manager m => exact trivial
    | _ => exact absurd ho hnew
  | shut | forsake | enter | withdraw => exact absurd ((has_modifyManager b _ _ o).1 ho) hnew
  | accept hm handle hr =>
    rw [Bridge.accept, has_modifyManager] at ho
    obtain rfl := eq_next_of_enroll ho hnew
    rw [Serves, show (b.accept _ handle _ _).resource b.next = _ from
      b.resource_enroll_next _ handle _ _]
    exact hr
  | reject hm handle hr =>
    rw [Bridge.reject, has_settle] at ho
    obtain rfl := eq_next_of_enroll ho hnew
    rw [Serves, Bridge.reject, resource_settle, if_pos rfl, resource_enroll_next]
    exact hr
  | retire => exact absurd ((has_settle b _ o).1 ((has_modifyManager _ _ _ o).1 ho)) hnew
  | @context s hl hr =>
    cases o with
    | context c =>
      obtain rfl : c = ⟨b.contexts.size⟩ := congrArg Context.mk (eq_size_of_add ho hnew)
      rw [Serves, show (b.addContext s).context ⟨b.contexts.size⟩ = s from
        b.contexts.get_add_size s]
      exact ⟨hl, hr⟩
    | _ => exact absurd ho hnew
  | @job s hl hc hr =>
    cases o with
    | job j =>
      obtain rfl : j = ⟨b.jobs.size⟩ := congrArg Job.mk (eq_size_of_add ho hnew)
      rw [Serves, show (b.addJob s).job ⟨b.jobs.size⟩ = s from b.jobs.get_add_size s]
      exact ⟨⟨hl, hc⟩, hr⟩
    | _ => exact absurd ho hnew
  | @cancellation s hl hr =>
    cases o with
    | cancellation c =>
      obtain rfl : c = ⟨b.cancellations.size⟩ := congrArg Cancellation.mk (eq_size_of_add ho hnew)
      rw [Serves, show (b.addCancellation s).cancellation ⟨b.cancellations.size⟩ = s from
        b.cancellations.get_add_size s]
      exact ⟨hl, hr⟩
    | _ => exact absurd ho hnew
  | take j =>
    cases o with
    | job j' => exact absurd (Nat.lt_of_lt_of_eq ho (Table.size_modify _ _ _)) hnew
    | _ => exact absurd ho hnew
  | convert => exact absurd ho hnew

/-- **What was adopted on the terms stays on them.** -/
theorem served (h : Step T b b') (hs : b.Served T) : b'.Served T := by
  intro o ho
  by_cases hold : b.Has o
  · exact h.remains.serves hold (hs o hold)
  · exact h.serves_new ho hold

end Step

/-! ## Walks -/

/-- **Steps made one after the other.** -/
def Walk (T : Terms σ) : Bridge σ → Bridge σ → Prop := Relation.ReflTransGen (Step T)

namespace Walk

open Bridge

variable {T : Terms σ} {b b' b'' : Bridge σ}

theorem refl (b : Bridge σ) : Walk T b b := Relation.ReflTransGen.refl

theorem trans (h : Walk T b b') (h' : Walk T b' b'') : Walk T b b'' :=
  Relation.ReflTransGen.trans h h'

instance : IsPreorder (Bridge σ) (Walk T) where
  refl := refl
  trans _ _ _ := trans

theorem step (h : Step T b b') : Walk T b b' := Relation.ReflTransGen.single h

/-- What every step ensures, a walk does. -/
theorem ensures {R : Bridge σ → Bridge σ → Prop} [IsPreorder (Bridge σ) R] (h : Walk T b b')
    (hstep : ∀ b b', Step T b b' → R b b') : R b b' := by
  induction h with
  | refl => exact Std.Refl.refl b
  | tail _ h ih => exact IsTrans.trans _ _ _ ih (hstep _ _ h)

theorem remains (h : Walk T b b') : Remains b b' := h.ensures fun _ _ => Step.remains

theorem served (h : Walk T b b') (hs : b.Served T) : b'.Served T := by
  induction h with
  | refl => exact hs
  | tail _ h ih => exact h.served ih

end Walk

end HandleBridge
