import HandleBridge.Proofs.Consumption
import HandleBridge.Proofs.Surrendering

/-!
# Proofs/Recalling — the name of a job is looked up until it is known

A lookup that succeeds is the last one: the name is remembered, and is given from then on without a
word to the native library, wherever a run leads (`Bridge.KnownAs`).  A lookup that fails leaves
nothing behind, and the take that it was made for goes on with a question mark (`Bridge.GoesOn`).
-/

namespace HandleBridge

open HandleBridge.Action Bridge

variable {σ α : Type}

/-- **A job is known by a name**: wherever a run leads, the name is given, and nothing is asked,
noted or changed for it. -/
def Bridge.KnownAs (b : Bridge σ) (j : Job) (name : String) : Prop :=
  ∀ {b' : Bridge σ} (_ : Run b b') (ctx : Option Context), j.name ctx b' = (.ok name, b')

/-- **A call goes on with the label of a job** after the name was asked for at a bridge: with the
name, by which the job is known then, or with a question mark, and then no name is remembered. -/
def Bridge.GoesOn (b : Bridge σ) (j : Job) (ctx : Option Context) (f : String → Action σ α)
    (x : Except Failure α × Bridge σ) : Prop :=
  match (j.name ctx b).1 with
  | .ok name => x = f name (j.name ctx b).2 ∧ x.2.KnownAs j name
  | .error _ => x = f "?" (j.name ctx b).2 ∧ (x.2.job j).name = none

/-- Where a take that obtains a value asks for the name: the job is marked, and observers were
told. -/
def Bridge.seized (b : Bridge σ) (j : Job) (ctx : Option Context) (mode : TakeMode)
    (value : Option Handle) : Bridge σ :=
  (j.takeOnce ctx mode b).2.note
    (.remarked (.resultTaken (b.resource (b.job j).resource).id mode value.isSome))

/-- **A job recalls its name**, whatever the native library answers. -/
structure Bridge.Recalls (b : Bridge σ) (j : Job) : Prop where
  /-- A job is known by the name that is remembered. -/
  known : ∀ name, (b.job j).name = some name → b.KnownAs j name
  /-- From then on it is known by a name that is given. -/
  given : ∀ ctx name, (j.name ctx b).1 = .ok name → (j.name ctx b).2.KnownAs j name
  /-- A lookup that fails leaves nothing behind. -/
  missed : ∀ ctx e, (j.name ctx b).1 = .error e → ((j.name ctx b).2.job j).name = none
  /-- A take that obtains a value hands it to the converter with the label, whether or not the name
  can be had. -/
  taken : ∀ ctx mode value, b.handedOver j ctx mode = some value →
    (b.seized j ctx mode value).GoesOn j ctx
      (fun label => some <$> j.convert ⟨value, b.keeper j, (b.job j).library.origin, label⟩)
      (j.take? ctx mode b)
  /-- A take that comes too late is refused with the label. -/
  late : ∀ ctx mode, (b.job j).taken = true → b.Live (b.job j).resource →
    (j.takeOnce ctx mode b).2.GoesOn j ctx (fun label => .fail (.alreadyTaken label))
      (j.take? ctx mode b)

namespace Job

variable {b : Bridge σ} {j : Job}

/-! ## Names -/

theorem name_of_some {name : String} (h : (b.job j).name = some name) (ctx : Option Context) :
    j.name ctx b = (.ok name, b) := by
  rw [Job.name, bind_of_ok (read_apply _ _), h]
  rfl

/-- **What is remembered is known for good**: no call takes a name back. -/
theorem knownAs_of_name {name : String} (h : (b.job j).name = some name) : b.KnownAs j name := by
  intro b' run ctx
  have hkept : (b'.job j).name = some name := run.keeps (P := fun b => (b.job j).name = some name) h
    fun {b} _ op _ hname => by
      rcases op.name_eq_or b j with heq | ⟨hnone, -⟩
      · exact heq.trans hname
      · exact absurd (hnone.symm.trans hname) (Option.some_ne_none name).symm
  exact name_of_some hkept ctx

/-- **What is remembered after a name was asked for is what was given**, and nothing if nothing
was. -/
theorem name_name (hj : b.Has (.job j)) (ctx : Option Context) :
    ((j.name ctx b).2.job j).name = (j.name ctx b).1.toOption := by
  cases hname : (b.job j).name with
  | some name =>
    rw [name_of_some hname]
    exact hname
  | none =>
    have hlookUp : j.name ctx b = j.lookUpName ctx b := by
      rw [Job.name, bind_of_ok (read_apply _ _), hname]
    obtain ⟨b₁, hquiet, hretains, ⟨e, heq⟩ | ⟨name, heq⟩⟩ := j.lookUpName_cases b ctx <;>
      rw [hlookUp, heq]
    · exact ((hretains [] List.nil_prefix).name j (by simp)).trans hname
    · rw [job_modifyJob, if_pos ⟨rfl, (hquiet.has _).2 hj⟩]
      rfl

/-! ## Labels -/

/-- What comes after a label and leaves names alone goes on with the label. -/
theorem goesOn_label (hj : b.Has (.job j)) (ctx : Option Context) {f : String → Action σ α}
    (hf : ∀ label b, ((f label b).2.job j).name = (b.job j).name) :
    b.GoesOn j ctx f ((j.label ctx >>= f) b) := by
  have hafter := (hf ((j.name ctx b).1.toOption.getD "?") (j.name ctx b).2).trans (name_name hj ctx)
  rw [GoesOn, bind_of_ok (j.label_eq ctx b)]
  cases hname : (j.name ctx b).1 with
  | ok name =>
    rw [hname] at hafter
    exact ⟨rfl, knownAs_of_name hafter⟩
  | error e =>
    rw [hname] at hafter
    exact ⟨rfl, hafter⟩

/-- A converter leaves names alone. -/
theorem name_convert (j : Job) (value : TakenValue) (b : Bridge σ) (j' : Job) :
    ((j.convert value b).2.job j').name = (b.job j').name := by
  have hretains : Retains [] none b (j.convert value b).2 := Retains.convert j value b
  exact (hretains List.nil_prefix).name j' nofun

/-- So does a take, until it asks for the label. -/
theorem name_takeOnce (j : Job) (ctx : Option Context) (mode : TakeMode) (b : Bridge σ) (j' : Job) :
    ((j.takeOnce ctx mode b).2.job j').name = (b.job j').name := by
  have hretains : Retains [] none b (j.takeOnce ctx mode b).2 := Retains.takeOnce j ctx mode b
  exact (hretains List.nil_prefix).name j' nofun

/-- **A take that obtains a value** looks the label up and hands both to the converter. -/
theorem take?_of_handedOver {ctx : Option Context} {mode : TakeMode} {value : Option Handle}
    (h : b.handedOver j ctx mode = some value) :
    j.take? ctx mode b = (j.label ctx >>= fun label =>
      some <$> j.convert ⟨value, b.keeper j, (b.job j).library.origin, label⟩)
        (b.seized j ctx mode value) := by
  rcases j.takeOnce_cases b ctx mode with ⟨value', b₀, hvalue, -, htake⟩ | ⟨hnone, -⟩
  · obtain rfl : value = value' := Option.some.inj (h.symm.trans hvalue)
    rw [take?, bind_of_ok (read_apply _ _), bind_of_ok (read_apply _ _), bind_of_ok htake, seized,
      htake]
    rfl
  · exact absurd (hnone.symm.trans h) (Option.some_ne_none value).symm

theorem has_seized (hj : b.Has (.job j)) {ctx : Option Context} {mode : TakeMode}
    {value : Option Handle} (h : b.handedOver j ctx mode = some value) :
    (b.seized j ctx mode value).Has (.job j) := by
  rcases j.takeOnce_cases b ctx mode with ⟨value', b₀, -, hquiet, htake⟩ | ⟨hnone, -⟩
  · have hj₀ : j.index < (b₀.modifyJob j (·.markTaken)).jobs.size := by
      rw [Bridge.modifyJob, Table.size_modify]
      exact (hquiet.has _).2 hj
    rw [seized, htake]
    exact hj₀
  · exact absurd (hnone.symm.trans h) (Option.some_ne_none value).symm

/-- A take that comes too late takes memory before it is refused. -/
theorem take?_of_late (hlive : b.Live (b.job j).resource) (htaken : (b.job j).taken = true)
    (ctx : Option Context) (mode : TakeMode) :
    Quiet b (j.takeOnce ctx mode b).2 ∧
      j.take? ctx mode b = (j.label ctx >>= fun label => .fail (.alreadyTaken label))
        (j.takeOnce ctx mode b).2 := by
  obtain ⟨_, _, b', hquiet, -, -, -, -, htake⟩ := takeOnce_of_open hlive.2 ctx mode
  rw [if_neg (Bool.eq_false_iff.1 hlive.1), if_pos htaken] at htake
  rw [take?, bind_of_ok (read_apply _ _), bind_of_ok (read_apply _ _), bind_of_ok htake, htake]
  exact ⟨hquiet, rfl⟩

/-- **Every job recalls its name.** -/
theorem recalls (hj : b.Has (.job j)) : b.Recalls j where
  known _ := knownAs_of_name
  given ctx name hname := knownAs_of_name ((name_name hj ctx).trans (by rw [hname]; rfl))
  missed ctx e he := (name_name hj ctx).trans (by rw [he]; rfl)
  taken ctx mode value hvalue := by
    rw [take?_of_handedOver hvalue]
    refine goesOn_label (has_seized hj hvalue) ctx fun label b => ?_
    rw [map_apply]
    exact name_convert j _ b j
  late ctx mode htaken hlive := by
    obtain ⟨hquiet, heq⟩ := take?_of_late hlive htaken ctx mode
    rw [heq]
    exact goesOn_label ((hquiet.has _).2 hj) ctx fun _ _ => rfl

end Job

end HandleBridge
