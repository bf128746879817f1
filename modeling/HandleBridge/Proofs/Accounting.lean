import HandleBridge.Proofs.ExactlyOnce
import Mathlib.Data.Set.Card

/-!
# Proofs/Accounting — what is in a registry at the end of a run

A resource is registered exactly when it and its manager are open and it was not taken out by hand
since it was last registered: `Run.Enrolled` reads the last part off the run.  So the count of a
registry is the number of these resources.  A manager that is closed stays closed and empty and
takes nothing any more.
-/

namespace HandleBridge

open Bridge

variable {σ α : Type}

/-! ## Calls that register or take out -/

namespace Operation

/-- Does a call register a resource by hand? -/
def Restores (b : Bridge σ) (r : Resource) : {α : Type} → Operation σ α → Prop
  | _, register m r' => r' = r ∧ (m.register r' b).1 = .ok ()
  | _, _ => False

/-- Does a call register a resource, by adopting it or by hand? -/
def Registers (b : Bridge σ) (r : Resource) (op : Operation σ α) : Prop :=
  (∃ a, op.adoption? b = some a ∧ a.accepted = true ∧ r = b.next) ∨ op.Restores b r

/-- Is a manager told to take a number out? -/
def Withdraws (b : Bridge σ) (m : Manager) (id : Nat) : {α : Type} → Operation σ α → Prop
  | _, deregister m' r => m' = m ∧ (b.resource r).id = id
  | _, _ => False

end Operation

namespace Run

/-- **Was a resource registered in the course of a run**, and its manager not told since then to
take its number out? -/
def Enrolled (r : Resource) {b : Bridge σ} : {b' : Bridge σ} → Run b b' → Prop
  | _, done => False
  | _, @call _ _ b' _ run op _ =>
    op.Registers b' r ∨
      run.Enrolled r ∧ ¬ op.Withdraws b' (b'.resource r).manager (b'.resource r).id

end Run

namespace Bridge.WellFormed

variable {b : Bridge σ} {m : Manager} {r : Resource} {e : Nat × Resource}

/-- A resource that is registered by hand is in the registry afterwards, and the others stay. -/
theorem mem_register (h : b.WellFormed) (hok : (m.register r b).1 = .ok ()) (m' : Manager) :
    e ∈ ((m.register r b).2.manager m').registry ↔
      e ∈ (b.manager m').registry ∨ m' = m ∧ e = ((b.resource r).id, r) := by
  rcases m.register_cases b r with ⟨_, heq⟩ | ⟨heq, hopen, howner, hm⟩
  · rw [heq] at hok
    cases hok
  rw [heq, manager_modifyManager]
  split
  · rename_i hm'
    rw [Manager.State.enter, Registry.mem_insert (h.sorted m), hm'.1, eq_self, true_and]
    refine ⟨Or.imp_right And.left, fun hmem => ?_⟩
    by_cases hin : ((b.resource r).id, r) ∈ (b.manager m).registry
    · rcases hmem with hmem | rfl
      · exact .inl hmem
      · exact .inl hin
    · refine hmem.imp_right fun he => ⟨he, fun e' he' hid => hin ?_⟩
      obtain ⟨-, howner', hid'⟩ := h.entry m e'.1 e'.2 he'
      have hsame := h.id_injective (h.has_of_mem he') (has_of_open hopen)
        (howner'.trans howner.symm) (hid'.trans hid)
      rw [← hid, ← hsame]
      exact he'
  · rename_i hm'
    exact (or_iff_left fun hnew => hm' ⟨hnew.1, has_of_manager_open hm⟩).symm

/-- A manager that is told to take a number out has everything else as before. -/
theorem mem_deregister (h : b.WellFormed) (m' : Manager) :
    e ∈ ((m.deregister r b).2.manager m').registry ↔
      e ∈ (b.manager m').registry ∧ ¬ (m' = m ∧ e.1 = (b.resource r).id) := by
  rw [m.deregister_apply]
  split
  · rename_i hfound
    obtain ⟨r', hmem⟩ := Registry.holds_iff.1 hfound
    have hm : b.Has (.manager m) := (h.entry m _ r' hmem).2.1 ▸ h.owner r' (h.has_of_mem hmem)
    change e ∈ ((b.modifyManager m _).manager m').registry ↔ _
    rw [manager_modifyManager]
    split
    · rename_i hm'
      rw [Manager.State.withdraw, Registry.mem_erase, hm'.1, eq_self, true_and]
    · rename_i hm'
      exact (and_iff_left fun hgone => hm' ⟨hgone.1, hm⟩).symm
  · rename_i hnone
    refine (and_iff_left_of_imp fun hmem hgone => hnone ?_).symm
    obtain ⟨rfl, hid⟩ := hgone
    exact Registry.holds_iff.2 ⟨e.2, hid ▸ hmem⟩

end Bridge.WellFormed

/-! ## Calls that a closed manager refuses -/

namespace Operation

/-- Is a manager asked to adopt, to register or to allocate?  A take and a cancel request may adopt
what the native library hands out, and allocate memory for it first. -/
def Enters (b : Bridge σ) (m : Manager) : {α : Type} → Operation σ α → Prop
  | _, adopt m' _ _ _ _ => m' = m
  | _, createContext _ m' => m' = m
  | _, adoptContext _ m' _ => m' = m
  | _, adoptJob _ m' _ _ => m' = m
  | _, register m' _ => m' = m
  | _, allocate m' _ => m' = m
  | _, allocateFrom r _ => (b.resource r).manager = m
  | _, jobTake j _ => b.keeper j = m
  | _, jobTakeFor j _ _ => b.keeper j = m
  | _, jobTakeIfReady j _ => b.keeper j = m
  | _, jobCancelAsync j _ => b.keeper j = m
  | _, _ => False

/-- **A closed manager takes nothing any more.** -/
theorem fails_of_closed {b : Bridge σ} {m : Manager} (hm : (b.manager m).closed = true)
    (op : Operation σ α) (h : op.Enters b m) : ∃ e, (op.perform b).1 = .error e := by
  have hadopt {β : Type} (handle : Handle) (kind : Kind) (releaser : Releaser σ)
      (f : Resource → Action σ β) :
      ∃ e, ((Resource.adopt m handle kind releaser >>= f) b).1 = .error e :=
    ⟨_, congrArg Prod.fst (Action.bind_of_error (Resource.adopt_of_closed hm handle kind releaser))⟩
  have halloc (content : Content) :
      ∃ e, ((Operation.allocateContent m content >>= Manager.handOut) b).1 = .error e := by
    rw [content.allocateContent_eq]
    exact ⟨_, congrArg Prod.fst (Action.bind_of_error (Manager.allocating_of_closed hm _))⟩
  have hclosed {j : Job} (hj : b.keeper j = m) : (b.manager (b.keeper j)).closed = true := by
    rwa [hj]
  cases op with
  | adopt m' handle kind pause failure =>
    obtain rfl : m' = m := h
    exact ⟨_, congrArg Prod.fst (Resource.adopt_of_closed hm handle kind _)⟩
  | createContext library m' =>
    obtain rfl : m' = m := h
    exact ⟨_, congrArg Prod.fst (Action.bind_of_error (Manager.allocate_of_closed hm _))⟩
  | adoptContext library m' handle =>
    obtain rfl : m' = m := h
    exact hadopt _ _ _ _
  | adoptJob library m' handle converter =>
    obtain rfl : m' = m := h
    exact hadopt _ _ _ _
  | register m' r =>
    obtain rfl : m' = m := h
    rcases m'.register_cases b r with ⟨e, heq⟩ | ⟨-, -, -, hopen⟩
    · exact ⟨e, congrArg Prod.fst heq⟩
    · exact Bool.noConfusion (hm.symm.trans hopen)
  | allocate m' content =>
    obtain rfl : m' = m := h
    exact halloc content
  | allocateFrom r cells =>
    obtain rfl : (b.resource r).manager = m := h
    exact halloc (.cells cells)
  | jobTake j ctx =>
    exact ⟨_, congrArg Prod.fst (Action.bind_of_error (Job.take?_of_closed (hclosed h)))⟩
  | jobTakeFor j ctx limit =>
    exact ⟨_, congrArg Prod.fst (Action.bind_of_error (Job.take?_of_closed (hclosed h)))⟩
  | jobTakeIfReady j ctx => exact ⟨_, congrArg Prod.fst (Job.take?_of_closed (hclosed h))⟩
  | jobCancelAsync j ctx => exact ⟨_, congrArg Prod.fst (Job.cancelAsync_of_closed (hclosed h))⟩
  | _ => exact h.elim

end Operation

/-! ## Along a run -/

namespace Operation

variable {b : Bridge σ}

theorem not_restores {op : Operation σ α} (h : op.rebooks = false) (r : Resource) :
    ¬ op.Restores b r := by
  cases op <;> first | exact id | exact Bool.noConfusion h

theorem not_withdraws {op : Operation σ α} (h : op.rebooks = false) (m : Manager) (id : Nat) :
    ¬ op.Withdraws b m id := by
  cases op <;> first | exact fun h => h | exact Bool.noConfusion h

theorem resources_register (b : Bridge σ) (m : Manager) (r : Resource) :
    (m.register r b).2.resources = b.resources := by
  rcases m.register_cases b r with ⟨e, heq⟩ | ⟨heq, -⟩ <;> rw [heq]
  rfl

theorem resources_deregister (b : Bridge σ) (m : Manager) (r : Resource) :
    (m.deregister r b).2.resources = b.resources := by
  rw [m.deregister_apply]
  split <;> rfl

theorem registered_register (h : b.WellFormed) {m : Manager} {r r' : Resource} :
    (m.register r' b).2.Registered r ↔
      r' = r ∧ (m.register r' b).1 = .ok () ∨ b.Registered r := by
  rw [Registered, resource, resources_register, ← resource]
  rcases m.register_cases b r' with ⟨e, heq⟩ | ⟨heq, -, howner, -⟩
  · rw [heq]
    exact (or_iff_right fun hnew => absurd hnew.2 (by simp)).symm
  · have hok : (m.register r' b).1 = .ok () := congrArg Prod.fst heq
    rw [h.mem_register hok, and_iff_left hok, or_comm, Registered]
    refine or_congr_left ⟨fun hnew => ?_, ?_⟩
    · exact (Prod.mk.inj hnew.2).2.symm
    · rintro rfl
      exact ⟨howner, rfl⟩

theorem registered_deregister (h : b.WellFormed) {m : Manager} {r r' : Resource} :
    (m.deregister r' b).2.Registered r ↔
      b.Registered r ∧ ¬ (m = (b.resource r).manager ∧ (b.resource r').id = (b.resource r).id) := by
  rw [Registered, resource, resources_deregister, ← resource, h.mem_deregister, Registered,
    eq_comm, eq_comm (b := (b.resource r').id)]

/-- What one call does to the registration of a resource. -/
theorem registered_iff (op : Operation σ α) (known : op.Known b) (h : b.WellFormed) {r : Resource}
    (hr : b.Has (.resource r)) :
    (op.after b).Registered r ↔ (op.after b).Live r ∧
      (op.Restores b r ∨ b.Registered r ∧
        ¬ op.Withdraws b (b.resource r).manager (b.resource r).id) := by
  have hlive := (op.wellFormed known h).1.live (r := r)
  cases hop : op.rebooks with
  | false =>
    obtain ⟨-, hevolves⟩ := op.tame hop known h
    rw [or_iff_right (not_restores hop r), and_iff_left (not_withdraws hop _ _)]
    constructor
    · exact fun hreg => ⟨hlive hreg, (hevolves.registered r hr (hlive hreg)).1 hreg⟩
    · rintro ⟨hopen, hreg⟩
      exact (hevolves.registered r hr hopen).2 hreg
  | true =>
    cases op with
    | register m r' =>
      change _ ↔ _ ∧ (r' = r ∧ (m.register r' b).1 = .ok () ∨ b.Registered r ∧ ¬ False)
      rw [not_false_iff, and_true, ← registered_register h]
      exact ⟨fun hreg => ⟨hlive hreg, hreg⟩, And.right⟩
    | deregister m r' =>
      change _ ↔ _ ∧ (False ∨ b.Registered r ∧
        ¬ (m = (b.resource r).manager ∧ (b.resource r').id = (b.resource r).id))
      rw [false_or, ← registered_deregister h]
      exact ⟨fun hreg => ⟨hlive hreg, hreg⟩, And.right⟩
    | _ => exact Bool.noConfusion hop

end Operation

namespace Run

variable {native : σ} {env : Environment} {b : Bridge σ}

/-- A resource that a call makes is registered exactly when its manager takes it. -/
theorem registered_new {op : Operation σ α} (known : op.Known b) (h : b.WellFormed) {r : Resource}
    (hr : ¬ b.Has (.resource r)) (hr' : (op.after b).Has (.resource r)) :
    (op.after b).Registered r ↔
      (op.after b).Live r ∧ ∃ a, op.adoption? b = some a ∧ a.accepted = true ∧ r = b.next := by
  cases hadoption : op.adoption? b with
  | none =>
    rw [Has, Operation.size_of_not_adoption hadoption] at hr'
    exact absurd hr' hr
  | some a =>
    obtain ⟨hadopts, haccepted⟩ := Operation.adopts_of_adoption hadoption
    have hnew : r = b.next := by
      rw [Has, hadopts.size] at hr'
      exact congrArg Resource.mk (Nat.le_antisymm (Nat.le_of_lt_succ hr') (Nat.le_of_not_lt hr))
    have hop : op.rebooks = false := by
      cases op with
      | register m r' => cases hadoption
      | deregister m r' => cases hadoption
      | _ => rfl
    obtain ⟨hwf, hevolves⟩ := op.tame hop known h
    refine ⟨fun hreg => ⟨hwf.live hreg, a, rfl, ?_, hnew⟩, fun hlive => hevolves.fresh r hr hlive.1⟩
    have hopen := (hwf.live hreg).1
    rw [hnew, hadopts.closed] at hopen
    rw [haccepted, hopen]
    rfl

/-- Only what was made was registered. -/
theorem has_of_enrolled (run : Run (.start native env) b) {r : Resource} (hr : run.Enrolled r) :
    b.Has (.resource r) := by
  induction run with
  | done => exact hr.elim
  | @call b' α run op known ih =>
    have hhas := (op.wellFormed known run.ledger.wellFormed).2.has (.resource r)
    rcases hr with (⟨a, hadoption, -, rfl⟩ | hrestores) | ⟨hr, -⟩
    · have hsize := (Operation.adopts_of_adoption hadoption).1.size
      exact Nat.lt_of_lt_of_eq (Nat.lt_succ_self _) hsize.symm
    · cases op with
      | register m r' => exact hhas (hrestores.1 ▸ known (.resource r') (.tail _ (.head _)))
      | _ => exact hrestores.elim
    · exact hhas (ih hr)

/-- **What is registered** at the end of a run. -/
theorem registered_iff (run : Run (.start native env) b) {r : Resource} (hr : b.Has (.resource r)) :
    b.Registered r ↔ b.Live r ∧ run.Enrolled r := by
  induction run with
  | done => exact absurd hr (Nat.not_lt_zero _)
  | @call b' α run op known ih =>
    have hwf := run.ledger.wellFormed
    by_cases hold : b'.Has (.resource r)
    · obtain ⟨hwf', hendures⟩ := op.wellFormed known hwf
      have hlive := Evolves.live_of_kept hwf hendures.kept hendures.closed r hold
      have hplain : op.Registers b' r ↔ op.Restores b' r := by
        refine or_iff_right ?_
        rintro ⟨_, _, _, hnew⟩
        exact ne_next hold hnew
      rw [op.registered_iff known hwf hold, ih hold, Enrolled, hplain]
      refine and_congr_right fun hopen => or_congr_right (and_congr_left fun _ => ?_)
      exact and_iff_right (hlive hopen)
    · rw [registered_new known hwf hold hr, Enrolled, Operation.Registers, or_assoc]
      refine and_congr_right fun _ => (or_iff_left ?_).symm
      rintro (hrestores | ⟨henrolled, -⟩)
      · cases op with
        | register m r' => exact hold (hrestores.1 ▸ known (.resource r') (.tail _ (.head _)))
        | _ => exact hrestores
      · exact hold (run.has_of_enrolled henrolled)

theorem contains_iff (h : b.WellFormed) {m : Manager} {r : Resource}
    (hm : (b.resource r).manager = m) :
    m.contains b r = true ↔ b.Registered r := by
  subst hm
  exact (h.sorted _).contains_iff

/-- The resources in a registry are told apart by their numbers. -/
theorem liveCount_eq_ncard (h : b.WellFormed) (m : Manager) :
    m.liveCount b = Set.ncard {r | (b.resource r).manager = m ∧ b.Registered r} := by
  have hset : {r | (b.resource r).manager = m ∧ b.Registered r} =
      ↑((b.manager m).registry.map Prod.snd).toFinset := by
    ext r
    rw [Set.mem_ofPred_eq, List.coe_toFinset, Set.mem_ofPred_eq, List.mem_map]
    constructor
    · rintro ⟨howner, hreg⟩
      rw [Registered, howner] at hreg
      exact ⟨_, hreg, rfl⟩
    · rintro ⟨⟨id, r⟩, hmem, rfl⟩
      obtain ⟨-, howner, hid⟩ := h.entry m id r hmem
      refine ⟨howner, ?_⟩
      rwa [Registered, howner, hid]
  rw [hset, Set.ncard_coe_finset, List.toFinset_card_of_nodup (h.nodup m), List.length_map,
    Manager.liveCount]

/-- **What a registry accounts for.**  Its entries are open resources of its manager under their own
numbers, and they are the ones that were registered and not taken out since.  Numbers increase in
the order in which managers are asked, whether or not they take what they are offered.  Once closed,
a manager stays closed and empty, and refuses. -/
theorem accounting (run : Run (.start native env) b) (m : Manager) (hm : b.Has (.manager m)) :
    (∀ id r, (id, r) ∈ (b.manager m).registry →
      (b.resource r).closed = false ∧ (b.resource r).manager = m ∧ (b.resource r).id = id) ∧
    ((b.manager m).registry.map Prod.fst).Nodup ∧
    (∀ r, (b.resource r).manager = m →
      (m.contains b r = true ↔ b.Live r ∧ run.Enrolled r)) ∧
    m.liveCount b = Set.ncard {r | (b.resource r).manager = m ∧ b.Live r ∧ run.Enrolled r} ∧
    (∀ i j a a', i < j → run.adoptions[i]? = some a → run.adoptions[j]? = some a' →
      a.manager = m → a'.manager = m → (b.resource ⟨i⟩).id < (b.resource ⟨j⟩).id) ∧
    ((b.manager m).closed = true → ∀ {b' : Bridge σ} (_ : Run b b'),
      (b'.manager m).closed = true ∧ (b'.manager m).registry = [] ∧
        ∀ {α : Type} (op : Operation σ α), op.Enters b' m → ∃ e, (op.perform b').1 = .error e) := by
  have h := run.ledger
  have hiff (r : Resource) : b.Registered r ↔ b.Live r ∧ run.Enrolled r := by
    by_cases hr : b.Has (.resource r)
    · exact run.registered_iff hr
    · refine iff_of_false (fun hreg => hr (h.wellFormed.has_of_mem hreg)) fun hlive => hr ?_
      exact has_of_open hlive.1.1
  refine ⟨h.wellFormed.entry m, (h.wellFormed.sorted m).nodup, fun r hm' => ?_, ?_,
    fun i j a a' hij ha ha' hm hm' => ?_, fun hclosed b' rest => ?_⟩
  · rw [contains_iff h.wellFormed hm', hiff]
  · simp only [liveCount_eq_ncard h.wellFormed, hiff]
  · refine h.wellFormed.id_lt_id _ _ (h.has ha') hij ?_
    rw [h.manager i a ha, h.manager j a' ha', hm, hm']
  · obtain ⟨hwf, hendures⟩ := rest.wellFormed h.wellFormed
    have hclosed' := hendures.closed m hm hclosed
    exact ⟨hclosed', hwf.shut m hclosed', fun op => op.fails_of_closed hclosed'⟩

/-- Of two resources the first is taken out by hand. -/
theorem accounting_of_deregistered :
    ∃ (b : Bridge Unit) (run : Run (.start () []) b),
      b.Has (.manager ⟨0⟩) ∧ b.Live ⟨0⟩ ∧ ¬ run.Enrolled ⟨0⟩ ∧ run.Enrolled ⟨1⟩ := by
  let run₁ := (Run.done (b := Bridge.start () [])).call (.createManager 16) (by decide)
  let run₂ := run₁.call (.adopt ⟨0⟩ (.ofIndex 7) .value 0 none) (by decide)
  let run₃ := run₂.call (.adopt ⟨0⟩ (.ofIndex 8) .value 0 none) (by decide)
  let run := run₃.call (.deregister ⟨0⟩ ⟨0⟩) (by decide)
  have hopen : ∀ r : Resource, _ := fun r => (run.accounting ⟨0⟩ (by decide)).2.2.1 r
  refine ⟨_, run, by decide, ⟨by decide, by decide⟩, fun henrolled => ?_, ?_⟩
  · have hcontains := (hopen ⟨0⟩ (by decide)).2 ⟨⟨by decide, by decide⟩, henrolled⟩
    exact absurd hcontains (by decide)
  · exact ((hopen ⟨1⟩ (by decide)).1 (by decide)).2

end Run

end HandleBridge
