import HandleBridge.Proofs.Complaints
import HandleBridge.Proofs.Holding
import HandleBridge.Proofs.Recalling
import HandleBridge.Proofs.Routine

/-!
# Proofs/Labels — a job of the simulated library goes by one label

The library spells the name that a job was started under with a space for each zero character, and
never renames a job (`Machine.Titles`).  So what is remembered of a name is that label
(`Bridge.Truthful`), and a job that is marked has its name remembered, because the library knows the
name of every job that it lets be taken (`Bridge.Titled`).  Wherever the name shows, in names, for
converters and in messages, it is the label: `Bridge.GoesBy`.
-/

namespace HandleBridge

open HandleBridge.Action Bridge Simulation

variable {α : Type}

/-! ## Zero characters -/

namespace CString

theorem blankZeros_append (text text' : String) :
    blankZeros (text ++ text') = blankZeros text ++ blankZeros text' := by
  simp only [blankZeros, String.toList_append, List.map_append, String.ofList_append]

theorem blankZeros_blankZeros (text : String) : blankZeros (blankZeros text) = blankZeros text :=
  blankZeros_of_spellable (spellable_blankZeros text)

end CString

/-! ## The names of native jobs -/

/-- The name that the native job behind a handle was started under. -/
def Simulation.title? (s : Simulation) (h : Handle) : Option String :=
  (s.job? (some h)).map (·.spec.name)

theorem Simulation.title?_congr {s s' : Simulation} (hjobs : s'.jobs = s.jobs) (h : Handle) :
    s'.title? h = s.title? h := by
  rw [title?, job?, hjobs, title?, job?]

/-- **No native job is lost or renamed.** -/
def Machine.Titles (m m' : Machine Simulation) : Prop :=
  ∀ h title, m.native.title? h = some title → m'.native.title? h = some title

namespace Machine.Titles

variable {m m' : Machine Simulation}

instance : IsPreorder (Machine Simulation) Titles where
  refl _ _ _ := id
  trans _ _ _ e e' h title := e' h title ∘ e h title

theorem of_jobs (hjobs : m'.native.jobs = m.native.jobs) : m.Titles m' := fun h _ htitle =>
  (title?_congr hjobs h).trans htitle

theorem setJob {h : Handle} {j j' : Simulation.Job} (hj : m.native.job? (some h) = some j)
    (hspec : j'.spec = j.spec) : m.Titles { m with native := m.native.setJob h j' } := by
  intro h' title htitle
  by_cases heq : h = h'
  · subst heq
    rw [title?, hj] at htitle
    rw [title?, job?_setJob hj, Option.map_some, hspec]
    exact htitle
  · have hkept : (m.native.setJob h j').job? (some h') = m.native.job? (some h') :=
      List.getElem?_set_ne fun hindex => heq (Handle.index_injective hindex)
    rw [title?, hkept]
    exact htitle

/-- A job that is started has the place of no other. -/
theorem newJob (m : Machine Simulation) (spec : JobSpec) (now : Nat) :
    m.Titles { m with native := (m.native.newJob spec now).2 } := by
  intro h title htitle
  obtain ⟨j, hj, rfl⟩ := Option.map_eq_some_iff.1 htitle
  obtain ⟨hlt, -⟩ := List.getElem?_eq_some_iff.1 hj
  have hkept : (m.native.newJob spec now).2.job? (some h) = some j :=
    (List.getElem?_append_left hlt).trans hj
  rw [title?, hkept]
  rfl

theorem routine : Routine (fun _ => True) Titles where
  clock _ _ := of_jobs rfl
  report m c _ latest := of_jobs (by cases c <;> rfl)
  setJob hj _ hspec := setJob hj hspec
  newContext _ := of_jobs rfl
  newCancelJob _ _ := of_jobs rfl
  newValue _ _ := of_jobs rfl
  count m probe := of_jobs (by cases probe <;> rfl)

theorem loggerInit (append : Appending) (filters file : StringOut) (m : Machine Simulation) :
    m.Titles (loggerInit append filters file m).2 := by
  obtain ⟨logger, files, heq⟩ := loggerInit_native append filters file m
  rw [heq]
  exact of_jobs rfl

end Machine.Titles

/-- The terms on which nobody loses or renames a native job. -/
def Terms.naming : Terms Simulation where
  moves _ := Machine.Titles
  outside := Machine.Titles
  library l := l = Simulation.library
  dispose f := ∀ (h : Handle) (m : Machine Simulation), m.Titles (f h m)

namespace Terms

theorem moves_naming (l : Library Simulation) (hl : naming.library l) :
    l.entry.Moves (fun _ => True) naming.moves := by
  obtain rfl : l = Simulation.library := hl
  exact Machine.Titles.routine.moves (fun _ _ _ => id) _ (.loggerInit _)

theorem conserves_naming : naming.Conserves Machine.Titles where
  moves := id
  outside := id
  releases := Machine.Titles.routine.releases (fun _ => id) fun _ => id

end Terms

/-! ## What is remembered is true -/

namespace Bridge

/-- The name that the native job behind a job was started under. -/
def title? (b : Bridge Simulation) (j : Job) : Option String :=
  b.machine.native.title? (b.handleOf j)

/-- **Every name that is remembered is the native job's**, with a space for each zero character. -/
def Truthful (b : Bridge Simulation) : Prop :=
  ∀ j name, (b.job j).name = some name → (b.title? j).map CString.blankZeros = some name

variable {b b' : Bridge Simulation} {j : Job} {title name : String}

theorem eq_of_title? (htitle : b.title? j = some title)
    (h : (b.title? j).map CString.blankZeros = some name) : name = CString.blankZeros title := by
  rw [htitle] at h
  exact (Option.some.inj h).symm

/-- A job whose name is remembered was made. -/
theorem has_of_name {σ : Type} {b : Bridge σ} (h : (b.job j).name = some name) :
    b.Has (.job j) := by
  refine Nat.lt_of_not_le fun hle => ?_
  rw [job, Table.get_of_size_le _ hle] at h
  exact absurd h (Option.some_ne_none name).symm

end Bridge

/-- The native job behind a job keeps its name along a walk. -/
theorem Walk.title? {b b' : Bridge Simulation} (h : Walk .naming b b') (hs : b.Served .naming)
    {j : Job} (hj : b.Has (.job j)) {title : String} (htitle : b.title? j = some title) :
    b'.title? j = some title := by
  have hhandle : b'.handleOf j = b.handleOf j := by
    rw [handleOf, (h.remains.job j hj).1, h.remains.handle (hs (.job j) hj).2.1, handleOf]
  rw [Bridge.title?, hhandle]
  exact h.conserves Terms.conserves_naming hs _ _ htitle

theorem Walk.label? {b b' : Bridge Simulation} (h : Walk .naming b b') (hs : b.Served .naming)
    {j : Job} (hj : b.Has (.job j)) {name : String}
    (hname : (b.title? j).map CString.blankZeros = some name) :
    (b'.title? j).map CString.blankZeros = some name := by
  obtain ⟨title, htitle, rfl⟩ := Option.map_eq_some_iff.1 hname
  rw [h.title? hs hj htitle]
  rfl

namespace Bridge

variable {b b' : Bridge Simulation}

/-- What is remembered stays true as long as the name does not change. -/
theorem Truthful.walk (htrue : b.Truthful) (hwalk : Walk .naming b b') (hs : b.Served .naming)
    {j : Job} (hkept : (b'.job j).name = (b.job j).name) {name : String}
    (hname : (b'.job j).name = some name) :
    (b'.title? j).map CString.blankZeros = some name := by
  rw [hkept] at hname
  exact hwalk.label? hs (has_of_name hname) (htrue j name hname)

end Bridge

namespace Job

variable {b : Bridge Simulation} {j : Job} {ctx : Option Context} {name title : String}

/-! ## Lookups -/

/-- A name is looked up for an open job of an open manager. -/
theorem live_of_lookUpName (h : (j.lookUpName ctx b).1 = .ok name) :
    b.Live (b.job j).resource := by
  rw [lookUpName, bind_of_ok (read_apply _ _)] at h
  cases hm : (b.manager (b.resource (b.job j).resource).manager).closed with
  | true =>
    have halloc : (b.job j).resource.allocate [.ofString none] b = (.error .managerClosed, b) :=
      Manager.allocate_of_closed hm _
    rw [bind_of_error halloc] at h
    cases h
  | false =>
    cases hr : (b.resource (b.job j).resource).closed with
    | false => exact ⟨hr, hm⟩
    | true =>
      obtain ⟨out, scratch, n, halloc⟩ := Manager.allocate_of_open hm [.ofString none]
      have halloc' : (b.job j).resource.allocate [.ofString none] b = (.ok out, _) := halloc
      have hr' : ((b.spend (b.resource (b.job j).resource).manager scratch n).resource
        (b.job j).resource).closed = true := hr
      rw [bind_of_ok halloc', bind_of_error (Resource.withHandle_of_closed hr' _)] at h
      cases h

variable (hlibrary : (b.job j).library = library)

include hlibrary

/-- **A name that is looked up is the native job's.** -/
theorem title_of_lookUpName (h : (j.lookUpName ctx b).1 = .ok name) :
    (b.title? j).map CString.blankZeros = some name := by
  have hgiven : some name = b.nameGiven j ctx := by
    rw [← (lookUpName_apply (live_of_lookUpName h) ctx).1, h]
    rfl
  obtain ⟨c, -, hc⟩ := Option.bind_eq_some_iff.1 hgiven.symm
  rw [hlibrary] at hc
  obtain ⟨text, htext, rfl⟩ := Option.map_eq_some_iff.1 hc
  have hok : (jobName c (some (b.handleOf j)) true b.machine).1.status.isOk = true := by
    by_contra hfailed
    exact absurd ((if_neg hfailed).symm.trans htext) (Option.some_ne_none text).symm
  obtain ⟨J, hJ⟩ := Option.isSome_iff_exists.1 (onJob_isOk hok)
  have htext' : (jobName c (some (b.handleOf j)) true b.machine).1.success? = some text := htext
  rw [(jobName_gives hJ c).answer] at htext'
  obtain rfl : some (spelled J.spec.name) = text := Option.some.inj htext'
  rw [Option.join_some, readText_spelled, Bridge.title?, Simulation.title?, hJ]
  rfl

/-- So is a name that is given, if what is remembered is true. -/
theorem title_of_name (htrue : b.Truthful) (h : (j.name ctx b).1 = .ok name) :
    (b.title? j).map CString.blankZeros = some name := by
  cases hname : (b.job j).name with
  | some known =>
    rw [name_of_some hname] at h
    obtain rfl := Except.ok.inj h
    exact htrue j known hname
  | none =>
    rw [Job.name, bind_of_ok (read_apply _ _), hname] at h
    exact title_of_lookUpName hlibrary h

/-- **The label of an open job can be had**, with an open context or without. -/
theorem name_of_live (htrue : b.Truthful) (hlive : b.Live (b.job j).resource) (hfit : b.Fit ctx)
    (htitle : b.title? j = some title) :
    (j.name ctx b).1 = .ok (CString.blankZeros title) := by
  obtain ⟨J, hJ, -⟩ := Option.map_eq_some_iff.1 htitle
  obtain ⟨name, hname⟩ : ∃ name, (j.name ctx b).1 = .ok name := by
    cases hname : (b.job j).name with
    | some known => exact ⟨known, congrArg Prod.fst (name_of_some hname ctx)⟩
    | none =>
      obtain ⟨name, b', heq, -⟩ := lookUpName_gives hlive hfit hlibrary hJ
      rw [Job.name, bind_of_ok (read_apply _ _), hname]
      exact ⟨name, congrArg Prod.fst heq⟩
  rw [hname, eq_of_title? htitle (title_of_name hlibrary htrue hname)]

end Job

/-! ## What calls leave true -/

section Truth

variable {b₀ b : Bridge Simulation} {ctx : Option Context} {j : Job}
  (hg : b₀.Grants .naming (fun _ => True) ctx) (hj : b₀.Has (.job j)) (hwalk : Walk .naming b₀ b)
  (htrue : b.Truthful)

include hg hj hwalk htrue

theorem Job.truthful_name : (j.name ctx b).2.Truthful := by
  have hs := hwalk.served hg.served
  have hj₁ := hwalk.remains.has _ hj
  have hasked := Walks.name hg hj b hwalk
  intro j' name hname
  by_cases heq : j' = j
  · subst heq
    rw [name_name hj₁] at hname
    have hgiven : (j'.name ctx b).1 = .ok name := by
      rcases hresult : (j'.name ctx b).1 with e | name' <;> rw [hresult] at hname
      · cases hname
      · exact congrArg _ (Option.some.inj hname)
    exact hasked.label? hs hj₁ (title_of_name (hs (.job j') hj₁).1.1 htrue hgiven)
  · have hretains : Retains [] (some j) b (j.name ctx b).2 := Retains.name j ctx b
    have hkept := (hretains List.nil_prefix).name j' fun h => heq (Option.some.inj h).symm
    exact htrue.walk hasked hs hkept hname

theorem Job.truthful_takeOnce (mode : TakeMode) : (j.takeOnce ctx mode b).2.Truthful :=
  fun j' _ => htrue.walk (Walks.takeOnce hg hj mode b hwalk) (hwalk.served hg.served)
    (name_takeOnce j ctx mode b j')

theorem Job.truthful_convert (value : TakenValue) : (j.convert value b).2.Truthful :=
  fun j' _ => htrue.walk (Walks.convert hg hj value b hwalk) (hwalk.served hg.served)
    (name_convert j value b j')

theorem Job.truthful_take? (mode : TakeMode) : (j.take? ctx mode b).2.Truthful := by
  have htaken := truthful_takeOnce hg hj hwalk htrue mode
  have hwalk₁ := hwalk.trans (Walks.takeOnce hg hj mode b hwalk)
  rw [take?, bind_of_ok (read_apply _ _), bind_of_ok (read_apply _ _)]
  rcases htake : j.takeOnce ctx mode b with ⟨e | found, b₁⟩ <;> rw [htake] at htaken hwalk₁
  · rw [bind_of_error htake]
    exact htaken
  rw [bind_of_ok htake]
  cases found with
  | notReady => exact htaken
  | alreadyTaken =>
    dsimp only
    rw [bind_of_ok (j.label_eq ctx b₁)]
    exact truthful_name hg hj hwalk₁ htaken
  | taken value =>
    let remark := Remark.resultTaken (b.resource (b.job j).resource).id mode value.isSome
    let b₂ := b₁.note (.remarked remark)
    have hwalk₂ : Walk .naming b₀ b₂ := hwalk₁.trans (.step (.remarked b₁ remark))
    have htrue₂ : b₂.Truthful := htaken
    dsimp only
    rw [bind_of_ok (remark_apply _ _), bind_of_ok (j.label_eq ctx b₂), map_apply]
    exact truthful_convert hg hj (hwalk₂.trans (Walks.name hg hj b₂ hwalk₂))
      (truthful_name hg hj hwalk₂ htrue₂) _

end Truth

/-! ## Marked jobs have names -/

/-- **What is remembered is true, and the name of a marked job is remembered.** -/
structure Bridge.Titled (b : Bridge Simulation) : Prop where
  wellFormed : b.WellFormed
  served : b.Served .naming
  truthful : b.Truthful
  marked : ∀ j, (b.job j).taken = true → (b.job j).name ≠ none

theorem Bridge.Titled.start (native : Simulation) (env : Environment) :
    (Bridge.start native env).Titled where
  wellFormed := .start native env
  served := .start _ native env
  truthful _ _ h := absurd (has_of_name h) (Nat.not_lt_zero _)
  marked _ h := by cases h

/-- What a call is granted that is passed a context. -/
theorem Bridge.Titled.grants {b : Bridge Simulation} (h : b.Titled) {ctx : Option Context}
    (hctx : ∀ X, ctx = some X → b.Has (.context X)) :
    b.Grants .naming (fun _ => True) ctx :=
  ⟨h.served, Terms.moves_naming, hctx, fun _ _ => trivial⟩

namespace Job

variable {b : Bridge Simulation} {j : Job} {ctx : Option Context}

/-- A take leaves a context fit. -/
theorem fit_seized (hfit : b.Fit ctx) (mode : TakeMode) (value : Option Handle) :
    (b.seized j ctx mode value).Fit ctx := by
  obtain ⟨hgrows, hcontexts⟩ := takeOnce_grows b j ctx mode
  intro X hX
  have hcontext : (b.seized j ctx mode value).context X = b.context X :=
    congrArg (·.get X.index) hcontexts
  have hresource : (b.seized j ctx mode value).resource (b.context X).resource =
      b.resource (b.context X).resource := hgrows.resource _ (has_of_open (hfit X hX).1)
  rw [hcontext, hresource]
  exact hfit X hX

/-- **The library knows the name of a job that it lets be taken.** -/
theorem name_seized (h : b.Titled) (hj : b.Has (.job j))
    (hctx : ∀ X, ctx = some X → b.Has (.context X)) {mode : TakeMode} {value : Option Handle}
    (hvalue : b.handedOver j ctx mode = some value) :
    ∃ title, b.title? j = some title ∧
      (j.name ctx (b.seized j ctx mode value)).1 = .ok (CString.blankZeros title) := by
  have hg := h.grants hctx
  have hlibrary : (b.job j).library = library := (h.served (.job j) hj).1.1
  obtain ⟨hlive, hjob⟩ := live_of_handedOver hlibrary hvalue
  obtain ⟨J, hJ⟩ := Option.isSome_iff_exists.1 hjob
  have htitle : b.title? j = some J.spec.name := by rw [Bridge.title?, Simulation.title?, hJ]; rfl
  have hfit : b.Fit ctx := by
    obtain ⟨-, -, c, hpassed, -⟩ := handedOver_eq_some.1 hvalue
    refine fit_of_passed (hpassed ▸ Option.some_ne_none c) fun X hX => ?_
    exact (h.served (.context X) (hctx X hX)).1
  -- The take leaves all of this as it was, but for the mark.
  have hwalk : Walk .naming b (b.seized j ctx mode value) :=
    (Walks.takeOnce hg hj mode b (.refl b)).trans (.step (.remarked _ _))
  have htrue : (b.seized j ctx mode value).Truthful :=
    truthful_takeOnce hg hj (.refl b) h.truthful mode
  have hgrows : b.Grows (b.seized j ctx mode value) :=
    (takeOnce_grows b j ctx mode).1.trans (.note _ _)
  refine ⟨_, htitle, name_of_live ?_ htrue ?_ (fit_seized hfit mode value)
    (hwalk.title? h.served hj htitle)⟩
  · rw [hgrows.jobLibrary hj, hlibrary]
  · rw [hgrows.jobResource hj]
    exact hgrows.live hlive

end Job

namespace Operation

variable {b : Bridge Simulation} {j : Job} {ctx : Option Context} {mode : TakeMode}

theorem context?_of_take {op : Operation Simulation α} (h : op.take? = some (j, ctx, mode)) :
    op.context? = ctx := by
  cases op <;> cases h <;> rfl

/-- A call that may look a name up asks for it, or takes a result. -/
theorem cases_of_named {op : Operation Simulation α} (h : op.named? = some j) :
    op.after b = (j.name op.context? b).2 ∨
      ∃ mode, op.take? = some (j, op.context?, mode) := by
  cases op with
  | jobName => cases h; exact .inl rfl
  | jobTake | jobTakeFor | jobTakeIfReady => cases h; exact .inr ⟨_, rfl⟩
  | _ => cases h

theorem mem_objects_named {op : Operation Simulation α} (h : op.named? = some j) :
    .job j ∈ op.objects := by
  cases op with
  | jobName | jobTake | jobTakeFor | jobTakeIfReady => cases h; exact .head _
  | _ => cases h

section After

variable (op : Operation Simulation α) (known : op.Known b) (h : b.Titled)

include known h

theorem grants_titled : b.Grants .naming (fun _ => True) op.context? :=
  h.grants fun _ hX => known _ (op.mem_objects_context? hX)

/-- A call leaves what is remembered true. -/
theorem truthful_after (hop : op.On .naming) : (op.after b).Truthful := by
  have hg := op.grants_titled known h
  cases hnamed : op.named? with
  | none =>
    refine fun j name hname => h.truthful.walk (op.walks known hop hg) h.served ?_ hname
    refine (op.name_eq_or b j).resolve_right fun hnew => ?_
    cases hnamed.symm.trans hnew.2
  | some j =>
    have hj := known _ (mem_objects_named hnamed)
    rcases cases_of_named (b := b) hnamed with heq | ⟨mode, htake⟩
    · rw [heq]
      exact Job.truthful_name hg hj (.refl b) h.truthful
    · rw [(spec_of_take htake b).1]
      exact Job.truthful_take? hg hj (.refl b) h.truthful mode

/-- The names of marked jobs are remembered after a call: a job is marked when it was taken, and
then its name was looked up. -/
theorem marked_after (hmark : ((op.after b).job j).taken = true) :
    ((op.after b).job j).name ≠ none := by
  rw [(op.consumes known h.wellFormed j).2, Bool.or_eq_true] at hmark
  rcases hmark with hold | hnew
  · have hname := h.marked j hold
    rw [(op.name_eq_or b j).resolve_right fun hnew => hname hnew.1]
    exact hname
  · obtain ⟨value, hvalue⟩ := Option.isSome_iff_exists.1 hnew
    obtain ⟨ctx, mode, htake, hhanded⟩ := obtained_eq_some.1 hvalue
    have hhanded : b.handedOver j ctx mode = some value := handedOver_eq_some.2 hhanded
    obtain ⟨hafter, -, hhas⟩ := spec_of_take htake b
    have hj := hhas known
    obtain rfl := context?_of_take htake
    obtain ⟨title, -, hname⟩ := Job.name_seized h hj (op.grants_titled known h).has hhanded
    rw [hafter, Job.take?_of_handedOver hhanded, bind_of_ok (j.label_eq _ _), map_apply,
      Job.name_convert, Job.name_name (Job.has_seized hj hhanded), hname]
    exact Option.some_ne_none _

/-- **A call leaves what is remembered true**, and the names of marked jobs remembered. -/
theorem titled_after (hop : op.On .naming) : (op.after b).Titled where
  wellFormed := (op.wellFormed known h.wellFormed).1
  served := (op.walks known hop (op.grants_titled known h)).served h.served
  truthful := op.truthful_after known h hop
  marked _ := op.marked_after known h

end After

end Operation

/-- **What is remembered is true wherever a run has come.** -/
theorem Run.titled {b b' : Bridge Simulation} (run : Run b b')
    (hrun : run.All fun _ op => op.On .naming) (h : b.Titled) : b'.Titled := by
  induction run with
  | done => exact h
  | call run op known ih => exact op.titled_after known (ih hrun.1) hrun.2

/-! ## Where the label shows -/

namespace Bridge

/-- **A take is told in words why it failed**: by its failure, and by the context that it was
given. -/
def Tells (b : Bridge Simulation) (j : Job) (X : Context) (mode : TakeMode) (status : Status)
    (message : String) : Prop :=
  ∃ d, (j.take? (some X) mode b).1 = .error (.ofStatus status (some d)) ∧
    d.message = some message ∧ ∃ r, r.message = message ∧
      (j.take? (some X) mode b).2.machine.native.slot? (b.behind X) = some (some r)

/-- Does a take of a job come to the native job, and can it be told in words why it fails? -/
structure Addresses (b : Bridge Simulation) (j : Job) (J : Simulation.Job) (X : Context) :
    Prop where
  stands : b.Stands j J
  free : (b.job j).taken = false
  has : b.Has (.context X)
  opened : (b.resource (b.context X).resource).closed = false
  wields : b.Wields X

/-- **A job goes by a label** wherever its name shows. -/
structure GoesBy (b : Bridge Simulation) (j : Job) (label : String) : Prop where
  /-- Every name that is given is the label. -/
  given : ∀ ctx name, (j.name ctx b).1 = .ok name → name = label
  /-- An open job gives it, with an open context or without. -/
  named : ∀ ctx, b.Live (b.job j).resource → b.Fit ctx → (j.name ctx b).1 = .ok label
  /-- A value that is handed over goes to the converter with the label. -/
  converted : ∀ ctx mode value, (∀ X, ctx = some X → b.Has (.context X)) →
    b.handedOver j ctx mode = some value → j.take? ctx mode b =
      (some <$> j.convert ⟨value, b.keeper j, (b.job j).library.origin, label⟩)
        (j.name ctx (b.seized j ctx mode value)).2
  /-- A take that comes too late is refused with the label. -/
  refused : ∀ ctx mode, b.Live (b.job j).resource → (b.job j).taken = true →
    (j.take? ctx mode b).1 = .error (.alreadyTaken label)
  /-- So are a take that runs into its limit, -/
  timedOut : ∀ J X limit, b.Addresses j J X →
    (J.attend b.machine.clock (.bounded limit)).1 = false →
    b.Tells j X (.bounded limit) .timeout ("Job<" ++ label ++ "> timeout")
  /-- one that comes to a job that was cancelled, -/
  cancelled : ∀ J X mode, b.Addresses j J X → (J.attend b.machine.clock mode).1 = true →
    J.taken = false → J.ending = some .cancelled →
    b.Tells j X mode .clientError ("Job<" ++ label ++ "> cancelled")
  /-- and one that comes to a job whose result was consumed, by a take that failed or by others. -/
  consumed : ∀ J X mode, b.Addresses j J X → (J.attend b.machine.clock mode).1 = true →
    J.taken = true → b.Tells j X mode .clientError ("Job<" ++ label ++ "> already taked")

variable {b : Bridge Simulation} {j : Job} {title : String}

/-- **What the library reports of a take under the label of the job is told so**: nothing in the
message has to be respelled. -/
theorem Addresses.tells {J : Simulation.Job} {X : Context} (h : b.Addresses j J X)
    (hserved : b.Served .naming) {mode : TakeMode} {status : Status} {before after : String}
    (hbefore : CString.spellable before = true) (hafter : CString.spellable after = true)
    (hcomplaint : J.complaint b.machine.clock mode =
      some (localReport status (before ++ J.label ++ after))) :
    b.Tells j X mode status (before ++ J.label ++ after) := by
  have hX : b.Knows X (b.behind X) :=
    ⟨h.has, (hserved _ h.has).2.1, (hserved _ h.has).1, rfl⟩
  obtain ⟨hfails, hkept⟩ :=
    Job.take?_complains h.stands hX h.opened h.wields h.free hcomplaint
  have hspelled :
      CString.blankZeros (before ++ J.label ++ after) = before ++ J.label ++ after := by
    rw [CString.blankZeros_append, CString.blankZeros_append, Simulation.Job.label,
      CString.blankZeros_blankZeros, CString.blankZeros_of_spellable hbefore,
      CString.blankZeros_of_spellable hafter]
  exact ⟨_, hfails, congrArg some hspelled, _, rfl, hkept⟩

/-- **A job goes by the name that its native job was started under**, with a space for each zero
character. -/
theorem Titled.goesBy (h : b.Titled) (hj : b.Has (.job j)) (htitle : b.title? j = some title) :
    b.GoesBy j (CString.blankZeros title) := by
  have hlibrary : (b.job j).library = library := (h.served (.job j) hj).1.1
  have hlabel {J : Simulation.Job} {X : Context} (hJ : b.Addresses j J X) :
      J.label = CString.blankZeros title := by
    rw [Bridge.title?, Simulation.title?, hJ.stands.native] at htitle
    exact congrArg CString.blankZeros (Option.some.inj htitle)
  refine ⟨fun ctx name hname => ?_, fun ctx hlive hfit => ?_, fun ctx mode value hctx hvalue => ?_,
    fun ctx mode hlive hmark => ?_, fun J X limit hJ hmissed => ?_,
    fun J X mode hJ hcame hfree hcancelled => ?_, fun J X mode hJ hcame htaken => ?_⟩
  · exact eq_of_title? htitle (Job.title_of_name hlibrary h.truthful hname)
  · exact Job.name_of_live hlibrary h.truthful hlive hfit htitle
  · obtain ⟨title', htitle', hname⟩ := Job.name_seized h hj hctx hvalue
    obtain rfl : title = title' := Option.some.inj (htitle.symm.trans htitle')
    rw [Job.take?_of_handedOver hvalue, bind_of_ok (j.label_eq ctx _), hname]
    rfl
  · obtain ⟨name, hname⟩ := Option.ne_none_iff_exists'.1 (h.marked j hmark)
    obtain rfl := eq_of_title? htitle (h.truthful j name hname)
    rw [(Job.take?_of_taken hlive hmark ctx mode).1, label, hname]
    rfl
  · rw [← hlabel hJ]
    exact hJ.tells h.served (by decide) (by decide) (Simulation.Job.complaint_of_missed hmissed)
  · rw [← hlabel hJ]
    exact hJ.tells h.served (by decide) (by decide)
      (Simulation.Job.complaint_of_cancelled hcame hfree hcancelled)
  · rw [← hlabel hJ]
    exact hJ.tells h.served (by decide) (by decide)
      (Simulation.Job.complaint_of_taken hcame htaken)

end Bridge

namespace Run

/-- **A job of the simulated library goes by the name that it was started under**, with a space for
each zero character, wherever a run leads; and every job recalls the name that it was given once,
whatever its library answers. -/
theorem labels :
    (∀ {native : Simulation} {env : Environment} {b₀ b : Bridge Simulation}
      (run : Run (.start native env) b₀) (later : Run b₀ b),
      (run.All fun _ op => op.On .naming) → (later.All fun _ op => op.On .naming) →
      ∀ {j : Job} {title : String}, b₀.Has (.job j) → b₀.title? j = some title →
        b.GoesBy j (CString.blankZeros title)) ∧
    ∀ {σ : Type} {b : Bridge σ} {j : Job}, b.Has (.job j) → b.Recalls j := by
  refine ⟨?_, Job.recalls⟩
  intro native env b₀ b run later hrun hlater j title hj htitle
  have h₀ := run.titled hrun (.start native env)
  obtain ⟨hwalk, -⟩ := later.walk Terms.moves_naming hlater h₀.served
  exact (later.titled hlater h₀).goesBy (hwalk.remains.has _ hj) (hwalk.title? h₀.served hj htitle)

/-- A job that is started under a name with a zero character. -/
def zeroNamed (m : Machine Simulation) : Machine Simulation :=
  { m with native := (m.native.newJob ⟨"a\x00b", some 0, .void, 0, none, none, none⟩ 0).2 }

/-- A name with a zero character in it. -/
theorem labels_of_zero :
    ∃ (b : Bridge Simulation) (_ : Run (.start default []) b),
      b.title? ⟨0⟩ = some "a\x00b" ∧ (Job.name ⟨0⟩ none b).1 = .ok "a b" ∧
        (Job.name ⟨0⟩ none b).2.KnownAs ⟨0⟩ "a b" := by
  let run₁ := (Run.done (b := Bridge.start default [])).call (.outside zeroNamed) (by decide)
  let run₂ := run₁.call (.createManager 16) (by decide)
  let run := run₂.call (.adoptJob library ⟨0⟩ (.ofIndex 0) .inspect) (by decide)
  have hrun : run.All fun _ op => op.On .naming :=
    ⟨⟨⟨trivial, fun m => .newJob m _ _⟩, trivial⟩, rfl, trivial⟩
  obtain ⟨hlabels, hrecalls⟩ := labels
  have hgoes := hlabels run .done hrun trivial (j := ⟨0⟩) (by decide) rfl
  have hname := hgoes.named none ⟨rfl, rfl⟩ (fit_none _)
  exact ⟨_, run, rfl, hname, (hrecalls (by decide)).given none _ hname⟩

end Run

end HandleBridge
