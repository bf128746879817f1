import HandleBridge.Operation
import Mathlib.Order.Defs.Unbundled

/-!
# Proofs/Quiet — calls that leave every object as it was

Most calls of the bridge ask the native library something and take scratch memory on the way: the
clock, the library's memory, the journal and the size of a region change, and nothing else does.
`Quiet` is that relation.  It is kept by each primitive of `Action`, so it holds of a call as soon
as it holds of the call's parts (`Action.Ensures.bind`).
-/

namespace HandleBridge

variable {σ α β : Type}

/-! ## What the journal says about releases and conversions -/

namespace Event

/-- The release that an event stands for: the resource, the handle that its release action was
given, and how that ended. -/
def release? : Event → Option (Resource × Handle × Option Failure)
  | released r h failure => some (r, h, failure)
  | _ => none

/-- The conversion that an event stands for: the job, and the value that its converter was given. -/
def conversion? : Event → Option (Job × Option Handle)
  | converted j value => some (j, value)
  | _ => none

end Event

namespace Bridge

/-- The releases so far, in order. -/
def releases (b : Bridge σ) : List (Resource × Handle × Option Failure) :=
  b.journal.filterMap Event.release?

/-- The conversions so far, in order. -/
def conversions (b : Bridge σ) : List (Job × Option Handle) :=
  b.journal.filterMap Event.conversion?

/-- The bridge after observers were told, if there was something to tell. -/
def tell (b : Bridge σ) : Option Remark → Bridge σ
  | none => b
  | some r => b.note (.remarked r)

theorem tell_eq (b : Bridge σ) (r : Option Remark) :
    b.tell r = { b with journal := (b.tell r).journal } := by
  cases r <;> rfl

theorem machine_tell (b : Bridge σ) (r : Option Remark) : (b.tell r).machine = b.machine := by
  cases r <;> rfl

end Bridge

/-! ## The relation -/

/-- A phase but for the region. -/
def Phase.outline : Phase → Phase
  | live _ => live ⟨0, 0⟩
  | ending _ | ended => ended

/-- A scope but for its region. -/
def Manager.State.outline (s : Manager.State) : Manager.State :=
  { s with phase := s.phase.outline }

/-- A job but for its name. -/
def Job.State.unnamed (s : Job.State σ) : Job.State σ := { s with name := none }

theorem Manager.State.closed_outline (s : Manager.State) : s.outline.closed = s.closed := by
  rw [outline, closed, closed]
  cases s.phase <;> rfl

theorem Manager.State.outline_charge (s : Manager.State) (cells : Nat) :
    (s.charge cells).outline = s.outline := by
  rw [outline, charge, outline]
  cases s.phase <;> rfl

theorem Manager.State.outline_shut (s : Manager.State) :
    s.shut.outline = { s.outline with registry := [], phase := .ended } := by
  rw [outline, shut, outline]
  cases s.phase <;> rfl

theorem Manager.State.outline_handBack (s : Manager.State) : s.handBack.outline = s.outline := by
  rw [outline, handBack, outline]
  cases s.phase <;> rfl

/-- **Every object is as it was.** -/
structure Quiet (b b' : Bridge σ) : Prop where
  managers : b'.managers.size = b.managers.size
  outline : ∀ m, (b'.manager m).outline = (b.manager m).outline
  resources : b'.resources = b.resources
  contexts : b'.contexts = b.contexts
  cancellations : b'.cancellations = b.cancellations
  jobs : b'.jobs.size = b.jobs.size
  unnamed : ∀ j, (b'.job j).unnamed = (b.job j).unnamed
  releases : b'.releases = b.releases
  conversions : b'.conversions = b.conversions

namespace Quiet

variable {b b' b'' : Bridge σ}

theorem refl (b : Bridge σ) : Quiet b b :=
  ⟨rfl, fun _ => rfl, rfl, rfl, rfl, rfl, fun _ => rfl, rfl, rfl⟩

theorem trans (h : Quiet b b') (h' : Quiet b' b'') : Quiet b b'' where
  managers := h'.managers.trans h.managers
  outline m := (h'.outline m).trans (h.outline m)
  resources := h'.resources.trans h.resources
  contexts := h'.contexts.trans h.contexts
  cancellations := h'.cancellations.trans h.cancellations
  jobs := h'.jobs.trans h.jobs
  unnamed j := (h'.unnamed j).trans (h.unnamed j)
  releases := h'.releases.trans h.releases
  conversions := h'.conversions.trans h.conversions

instance : IsPreorder (Bridge σ) Quiet where
  refl := refl
  trans _ _ _ := trans

theorem nextId (h : Quiet b b') (m : Manager) : (b'.manager m).nextId = (b.manager m).nextId :=
  show (b'.manager m).outline.nextId = _ from h.outline m ▸ rfl

theorem closed (h : Quiet b b') (m : Manager) : (b'.manager m).closed = (b.manager m).closed := by
  rw [← Manager.State.closed_outline, h.outline, Manager.State.closed_outline]

theorem resource (h : Quiet b b') (r : Resource) : b'.resource r = b.resource r := by
  rw [Bridge.resource, h.resources, Bridge.resource]

theorem jobResource (h : Quiet b b') (j : Job) : (b'.job j).resource = (b.job j).resource :=
  show (b'.job j).unnamed.resource = _ from h.unnamed j ▸ rfl

theorem jobConverter (h : Quiet b b') (j : Job) : (b'.job j).converter = (b.job j).converter :=
  show (b'.job j).unnamed.converter = _ from h.unnamed j ▸ rfl

theorem taken (h : Quiet b b') (j : Job) : (b'.job j).taken = (b.job j).taken :=
  show (b'.job j).unnamed.taken = _ from h.unnamed j ▸ rfl

theorem size (h : Quiet b b') : b'.resources.size = b.resources.size := by rw [h.resources]

/-! ### Quiet changes -/

theorem withMachine (b : Bridge σ) (m : Machine σ) : Quiet b (b.withMachine m) := { refl b with }

theorem withScratch (b : Bridge σ) (s : Scratch) : Quiet b (b.withScratch s) := { refl b with }

theorem modifyProcess (b : Bridge σ) (f : Process σ → Process σ) : Quiet b (b.modifyProcess f) :=
  { refl b with }

/-- An event that is neither a release nor a conversion changes no object. -/
theorem note {e : Event} (b : Bridge σ) (h : e.release? = none) (h' : e.conversion? = none) :
    Quiet b (b.note e) :=
  { refl b with
    releases := by simp [Bridge.releases, Bridge.note, h]
    conversions := by simp [Bridge.conversions, Bridge.note, h'] }

theorem called (b : Bridge σ) (symbol : Symbol) (target : Option Handle) :
    Quiet b (b.note (.called symbol target)) := note b rfl rfl

theorem remarked (b : Bridge σ) (r : Remark) : Quiet b (b.note (.remarked r)) := note b rfl rfl

theorem tell (b : Bridge σ) (r : Option Remark) : Quiet b (b.tell r) := by
  cases r with
  | none => exact refl b
  | some r => exact remarked b r

/-- A change of a scope that shows in its region only. -/
theorem modifyManager (b : Bridge σ) (m : Manager) {f : Manager.State → Manager.State}
    (hf : ∀ s, (f s).outline = s.outline) : Quiet b (b.modifyManager m f) :=
  { refl b with
    managers := Table.size_modify _ _ _
    outline := fun _ => b.managers.get_modify_congr _ Manager.State.outline _ _ hf }

theorem charge (b : Bridge σ) (m : Manager) (cells : Nat) :
    Quiet b (b.modifyManager m (·.charge cells)) :=
  modifyManager b m fun s => s.outline_charge cells

/-- What becomes of a region shows in no object. -/
theorem reclaim (b : Bridge σ) (m : Manager) : Quiet b (b.reclaim m) := by
  obtain ⟨s, heq⟩ := b.reclaim_eq m
  exact heq ▸ withScratch b s

theorem letGo (b : Bridge σ) (buffer : Buffer) : Quiet b (b.letGo buffer) :=
  (withScratch b _).trans (reclaim _ _)

theorem handBack (b : Bridge σ) (m : Manager) : Quiet b (b.handBack m) :=
  (modifyManager b m Manager.State.outline_handBack).trans (reclaim _ m)

theorem remember (b : Bridge σ) (j : Job) (name : String) :
    Quiet b (b.modifyJob j (·.remember name)) :=
  { refl b with
    jobs := Table.size_modify _ _ _
    unnamed := fun _ => b.jobs.get_modify_congr _ Job.State.unnamed _ _ fun _ => rfl }

end Quiet

/-! ## Calls that ensure a relation -/

namespace Action

theorem remark?_apply (r : Option Remark) (b : Bridge σ) : remark? r b = (.ok (), b.tell r) := by
  cases r <;> rfl

/-- Does a call relate every bridge to the one afterwards? -/
def Ensures (R : Bridge σ → Bridge σ → Prop) (x : Action σ α) : Prop := ∀ b, R b (x b).2

namespace Ensures

variable {R : Bridge σ → Bridge σ → Prop} {x : Action σ α}

theorem mono {S : Bridge σ → Bridge σ → Prop} (hx : x.Ensures R) (h : ∀ b b', R b b' → S b b') :
    x.Ensures S := fun b => h _ _ (hx b)

theorem attempt (hx : x.Ensures R) : (Action.attempt x).Ensures R := hx

variable [IsPreorder (Bridge σ) R]

theorem pure (a : α) : (Pure.pure a : Action σ α).Ensures R := Std.Refl.refl

theorem fail (e : Failure) : (Action.fail e : Action σ α).Ensures R := Std.Refl.refl

theorem ofExcept (r : Except Failure α) : (Action.ofExcept r : Action σ α).Ensures R :=
  Std.Refl.refl

theorem read (f : Bridge σ → α) : (Action.read f).Ensures R := Std.Refl.refl

/-- A call made of two relates a bridge to the one afterwards if both do on the way there. -/
theorem bind_at {b : Bridge σ} {f : α → Action σ β} (hx : R b (x b).2)
    (hf : ∀ a, (x b).1 = .ok a → R (x b).2 (f a (x b).2).2) : R b ((x >>= f) b).2 := by
  rw [bind_apply]
  rcases h : x b with ⟨e | a, b'⟩ <;> rw [h] at hx hf
  · exact hx
  · exact IsTrans.trans _ _ _ hx (hf a rfl)

/-- A call made of two ensures what both ensure. -/
theorem bind {f : α → Action σ β} (hx : x.Ensures R) (hf : ∀ a, (f a).Ensures R) :
    (x >>= f).Ensures R := fun b => bind_at (hx b) fun a _ => hf a _

theorem map {f : α → β} (hx : x.Ensures R) : (f <$> x).Ensures R := hx.bind fun a => pure (f a)

theorem ofFailure (e : Option Failure) : (Action.ofFailure e : Action σ Unit).Ensures R := by
  cases e with
  | none => exact pure ()
  | some e => exact fail e

end Ensures

/-! ## Calls that cannot fail -/

/-- Does a call give a result whatever the bridge? -/
def Total (x : Action σ α) : Prop := ∀ b, ∃ a, (x b).1 = .ok a

namespace Total

variable {x : Action σ α}

/-- After a call that cannot fail comes what follows, at the bridge that it left. -/
theorem bind_eq (hx : x.Total) (f : α → Action σ β) (b : Bridge σ) :
    ∃ a, (x b).1 = .ok a ∧ (x >>= f) b = f a (x b).2 := by
  obtain ⟨a, ha⟩ := hx b
  exact ⟨a, ha, bind_of_ok (Prod.ext ha rfl)⟩

theorem pure (a : α) : (Pure.pure a : Action σ α).Total := fun _ => ⟨a, rfl⟩

theorem read (f : Bridge σ → α) : (Action.read f).Total := fun b => ⟨f b, rfl⟩

theorem update (f : Bridge σ → Bridge σ) : (Action.update f).Total := fun _ => ⟨(), rfl⟩

theorem attempt (x : Action σ α) : (Action.attempt x).Total := fun _ => ⟨_, rfl⟩

theorem remark (r : Remark) : (Action.remark r : Action σ Unit).Total := update _

theorem bind {f : α → Action σ β} (hx : x.Total) (hf : ∀ a, (f a).Total) : (x >>= f).Total := by
  intro b
  obtain ⟨a, -, heq⟩ := hx.bind_eq f b
  rw [heq]
  exact hf a _

end Total

end Action

end HandleBridge
