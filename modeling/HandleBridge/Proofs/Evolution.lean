import HandleBridge.Proofs.QuietCalls
import HandleBridge.Proofs.Release

/-!
# Proofs/Evolution — how the objects change in the course of a call

A call other than `register` and `deregister` keeps the registry of a manager in step with the
resources: what was registered stays so until it is closed, and what is adopted is registered.
`Bridge.Evolves` is that relation, together with what never changes about a resource, and with the
jobs whose results stay where they are.  It is a preorder, so it holds of a call as soon as it holds
of the call's parts.
-/

namespace HandleBridge

variable {σ : Type}

namespace Bridge

/-! ## The relation -/

/-- Is a resource registered with the manager that adopted it? -/
def Registered (b : Bridge σ) (r : Resource) : Prop :=
  ((b.resource r).id, r) ∈ (b.manager (b.resource r).manager).registry

/-- Are a resource and the manager that adopted it open? -/
def Live (b : Bridge σ) (r : Resource) : Prop :=
  (b.resource r).closed = false ∧ (b.manager (b.resource r).manager).closed = false

/-- The values that the converter of a job was given, in order. -/
def conversionsOf (b : Bridge σ) (j : Job) : List (Option Handle) :=
  (b.conversions.filter (·.1 = j)).map (·.2)

/-- **Objects stay, and what was closed stays closed.** -/
structure Endures (b b' : Bridge σ) : Prop where
  has : ∀ o, b.Has o → b'.Has o
  kept : ∀ r, b.Has (.resource r) →
    b'.resource r = b.resource r ∨ b'.resource r = (b.resource r).shut
  closed : ∀ m, b.Has (.manager m) → (b.manager m).closed = true → (b'.manager m).closed = true

namespace Endures

variable {b b' b'' : Bridge σ}

theorem refl (b : Bridge σ) : Endures b b := ⟨fun _ => id, fun _ _ => .inl rfl, fun _ _ => id⟩

theorem trans (h : Endures b b') (h' : Endures b' b'') : Endures b b'' where
  has o ho := h'.has o (h.has o ho)
  kept r hr := by
    rcases h'.kept r (h.has _ hr) with heq | heq <;> rcases h.kept r hr with heq' | heq'
    · exact .inl (heq.trans heq')
    · exact .inr (heq.trans heq')
    · exact .inr (heq.trans (congrArg Resource.State.shut heq'))
    · exact .inr (by rw [heq, heq']; rfl)
  closed m hm hclosed := h'.closed m (h.has _ hm) (h.closed m hm hclosed)

/-- Registries change and scopes stay as they are otherwise. -/
theorem modifyManager (b : Bridge σ) (m : Manager) {f : Manager.State → Manager.State}
    (hf : ∀ s, (f s).closed = s.closed) : Endures b (b.modifyManager m f) := by
  refine ⟨fun o ho => ?_, fun _ _ => .inl rfl, fun m' _ hm' => ?_⟩
  · cases o with
    | manager m' => rwa [Has, Bridge.modifyManager, Table.size_modify]
    | _ => exact ho
  · exact (b.managers.get_modify_congr f Manager.State.closed m.index m'.index hf).trans hm'

theorem closed_resource (h : Endures b b') {r : Resource} (hr : b.Has (.resource r))
    (hclosed : (b.resource r).closed = true) : (b'.resource r).closed = true := by
  rcases h.kept r hr with heq | heq <;> rw [heq]
  · exact hclosed
  · rfl

theorem handle (h : Endures b b') {r : Resource} (hr : b.Has (.resource r)) :
    (b'.resource r).handle = (b.resource r).handle := by
  rcases h.kept r hr with heq | heq <;> rw [heq]
  rfl

theorem manager (h : Endures b b') {r : Resource} (hr : b.Has (.resource r)) :
    (b'.resource r).manager = (b.resource r).manager := by
  rcases h.kept r hr with heq | heq <;> rw [heq]
  rfl

end Endures

/-- **How the objects change**, but for what a take does to the job whose result it takes. -/
structure Evolves (consumed : Option Job) (b b' : Bridge σ) : Prop extends Endures b b' where
  live : ∀ r, b.Has (.resource r) → b'.Live r → b.Live r
  registered : ∀ r, b.Has (.resource r) → b'.Live r → (b'.Registered r ↔ b.Registered r)
  fresh : ∀ r, ¬ b.Has (.resource r) → b'.Live r → b'.Registered r
  taken : ∀ j, consumed ≠ some j → (b'.job j).taken = (b.job j).taken
  conversions : ∀ j, consumed ≠ some j → b'.conversionsOf j = b.conversionsOf j

theorem WellFormed.live {b : Bridge σ} (h : b.WellFormed) {r : Resource} (hr : b.Registered r) :
    b.Live r := by
  refine ⟨(h.entry _ _ r hr).1, ?_⟩
  by_contra hm
  rw [Bool.not_eq_false] at hm
  rw [Registered, h.shut _ hm] at hr
  exact List.not_mem_nil hr

/-- What is closed is in no registry. -/
theorem WellFormed.not_contains {b : Bridge σ} (h : b.WellFormed) {r : Resource}
    (hr : (b.resource r).closed = true) (m : Manager) : m.contains b r = false := by
  refine Bool.eq_false_iff.2 fun hcontains => ?_
  rw [Manager.contains, (h.sorted m).contains_iff] at hcontains
  exact absurd ((h.entry m _ r hcontains).1.symm.trans hr) Bool.false_ne_true

namespace Evolves

variable {consumed : Option Job} {b b' b'' : Bridge σ}

theorem refl (b : Bridge σ) : Evolves consumed b b :=
  ⟨.refl b, fun _ _ => id, fun _ _ _ => Iff.rfl, fun _ hr hlive => absurd (has_of_open hlive.1) hr,
    fun _ _ => rfl, fun _ _ => rfl⟩

theorem trans (h : Evolves consumed b b') (h' : Evolves consumed b' b'') :
    Evolves consumed b b'' where
  toEndures := h.toEndures.trans h'.toEndures
  live r hr hlive := h.live r hr (h'.live r (h.has _ hr) hlive)
  registered r hr hlive :=
    (h'.registered r (h.has _ hr) hlive).trans (h.registered r hr (h'.live r (h.has _ hr) hlive))
  fresh r hr hlive := by
    by_cases hr' : b'.Has (.resource r)
    · exact (h'.registered r hr' hlive).2 (h.fresh r hr (h'.live r hr' hlive))
    · exact h'.fresh r hr' hlive
  taken j hj := (h'.taken j hj).trans (h.taken j hj)
  conversions j hj := (h'.conversions j hj).trans (h.conversions j hj)

/-- What is open afterwards was open before: neither a resource nor a manager is reopened. -/
theorem live_of_kept (h : b.WellFormed)
    (kept : ∀ r, b.Has (.resource r) →
      b'.resource r = b.resource r ∨ b'.resource r = (b.resource r).shut)
    (closed : ∀ m, b.Has (.manager m) → (b.manager m).closed = true → (b'.manager m).closed = true)
    (r : Resource) (hr : b.Has (.resource r)) (hlive : b'.Live r) : b.Live r := by
  obtain ⟨hopen, hmanager⟩ := hlive
  rcases kept r hr with heq | heq
  · rw [heq] at hopen hmanager
    refine ⟨hopen, ?_⟩
    by_contra hm
    rw [closed _ (h.owner r hr) (by simpa using hm)] at hmanager
    exact Bool.noConfusion hmanager
  · rw [heq] at hopen
    exact Bool.noConfusion hopen

end Evolves

/-- A change that keeps a bridge well-formed and evolves it. -/
def Tame (consumed : Option Job) (b b' : Bridge σ) : Prop :=
  b.WellFormed → b'.WellFormed ∧ Evolves consumed b b'

namespace Tame

variable {consumed : Option Job} {b b' : Bridge σ}

instance : IsPreorder (Bridge σ) (Tame consumed) where
  refl b h := ⟨h, .refl b⟩
  trans _ _ _ h h' hwf := by
    obtain ⟨hwf', he⟩ := h hwf
    obtain ⟨hwf'', he'⟩ := h' hwf'
    exact ⟨hwf'', he.trans he'⟩

theorem trans {b'' : Bridge σ} (h : Tame consumed b b') (h' : Tame consumed b' b'') :
    Tame consumed b b'' := IsTrans.trans _ _ _ h h'

/-- A change that neither managers nor resources nor takes show. -/
theorem of_outline (hhas : ∀ o, b.Has o → b'.Has o) (hsize : b'.managers.size = b.managers.size)
    (houtline : ∀ m, (b'.manager m).outline = (b.manager m).outline)
    (hres : b'.resources = b.resources) (hrel : b'.releases = b.releases)
    (htaken : ∀ j, consumed ≠ some j → (b'.job j).taken = (b.job j).taken)
    (hconv : ∀ j, consumed ≠ some j → b'.conversionsOf j = b.conversionsOf j) :
    Tame consumed b b' := by
  intro h
  have hregistry (m : Manager) : (b'.manager m).registry = (b.manager m).registry :=
    show (b'.manager m).outline.registry = _ from houtline m ▸ rfl
  have hclosed (m : Manager) : (b'.manager m).closed = (b.manager m).closed := by
    rw [← Manager.State.closed_outline, houtline, Manager.State.closed_outline]
  have hresource (r : Resource) : b'.resource r = b.resource r := by
    rw [resource, hres, resource]
  refine ⟨h.of_outline hsize houtline hres hrel, ⟨hhas, fun r _ => .inl (hresource r),
    fun m _ hm => (hclosed m).trans hm⟩, fun r _ hlive => ?_, fun r _ _ => ?_, fun r hr hlive => ?_,
    htaken, hconv⟩
  · rwa [Live, hresource, hclosed] at hlive
  · rw [Registered, hresource, hregistry, Registered]
  · rw [Live, hresource] at hlive
    exact absurd (has_of_open hlive.1) hr

/-! ## Changes of the bridge -/

theorem addManager (b : Bridge σ) (region : Region) :
    Tame consumed b (b.addManager (.ofRegion region)) := by
  intro h
  have hread {m : Manager} (hm : b.Has (.manager m)) :
      (b.addManager (.ofRegion region)).manager m = b.manager m := by
    rw [manager_addManager, if_neg]
    rintro rfl
    exact Nat.lt_irrefl _ hm
  have hclosed : ∀ m, b.Has (.manager m) → (b.manager m).closed = true →
      ((b.addManager (.ofRegion region)).manager m).closed = true := fun m hm hm' => by
    rwa [hread hm]
  refine ⟨h.addManager region, ⟨fun o ho => ?_, fun _ _ => .inl rfl, hclosed⟩,
    Evolves.live_of_kept h (fun _ _ => .inl rfl) hclosed, fun r hr _ => ?_, fun r hr hlive => ?_,
    fun _ _ => rfl, fun _ _ => rfl⟩
  · cases o with
    | manager m =>
      rw [Has, Bridge.addManager, Table.size_add]
      exact Nat.lt_succ_of_lt ho
    | _ => exact ho
  · rw [Registered, Registered]
    exact iff_of_eq (congrArg (_ ∈ ·.registry) (hread (h.owner r hr)))
  · exact absurd (has_of_open hlive.1) hr

/-- A scope is shut, or its wrapper goes: nothing that is still open can tell. -/
theorem modifyManager {b : Bridge σ} {m : Manager} {f : Manager.State → Manager.State}
    (hwf : b.WellFormed → (b.modifyManager m f).WellFormed)
    (hclosed : (b.manager m).closed = true → (f (b.manager m)).closed = true)
    (hregistry : (f (b.manager m)).closed = false →
      (f (b.manager m)).registry = (b.manager m).registry) :
    Tame consumed b (b.modifyManager m f) := by
  intro h
  have hclosed : ∀ m', b.Has (.manager m') → (b.manager m').closed = true →
      ((b.modifyManager m f).manager m').closed = true := fun m' _ hm' => by
    rw [manager_modifyManager]
    split
    · rename_i hm
      exact hclosed (hm.1 ▸ hm')
    · exact hm'
  refine ⟨hwf h, ⟨fun o ho => ?_, fun _ _ => .inl rfl, hclosed⟩,
    Evolves.live_of_kept h (fun _ _ => .inl rfl) hclosed, fun r hr hlive => ?_,
    fun r hr hlive => ?_, fun _ _ => rfl, fun _ _ => rfl⟩
  · cases o with
    | manager m' => rwa [Has, Bridge.modifyManager, Table.size_modify]
    | _ => exact ho
  · have hopen := hlive.2
    have hresource : (b.modifyManager m f).resource r = b.resource r := rfl
    rw [hresource, manager_modifyManager] at hopen
    rw [Registered, hresource, manager_modifyManager]
    split
    · rename_i hm
      rw [if_pos hm] at hopen
      rw [hregistry hopen, Registered, hm.1]
    · rfl
  · exact absurd (has_of_open hlive.1) hr

theorem shut (b : Bridge σ) (m : Manager) : Tame consumed b (b.modifyManager m (·.shut)) :=
  modifyManager
    (fun h => h.modifyManager m (Nat.le_refl _) (fun _ _ hmem => absurd hmem List.not_mem_nil)
      Registry.sorted_nil (fun _ => rfl) fun _ => Manager.State.closed_shut _)
    (fun _ => Manager.State.closed_shut _)
    fun hopen => absurd (Manager.State.closed_shut _) (Bool.eq_false_iff.1 hopen)

theorem forsake {b : Bridge σ} {m : Manager} (hm : (b.manager m).closed = true) :
    Tame consumed b (b.modifyManager m (·.forsake)) :=
  modifyManager
    (fun h => h.modifyManager m (Nat.le_refl _) (h.entry m) (h.sorted m) (h.shut m) fun _ => hm)
    id fun _ => rfl

theorem retire {b : Bridge σ} {r : Resource} (hopen : (b.resource r).closed = false) :
    Tame consumed b (b.retire r) := by
  intro h
  have hread (r' : Resource) :
      (b.retire r).resource r' = if r' = r then (b.resource r).shut else b.resource r' :=
    b.resource_settle r r'
  have hkept (r' : Resource) :
      (b.retire r).resource r' = b.resource r' ∨
        (b.retire r).resource r' = (b.resource r').shut := by
    rw [hread]
    split
    · rename_i heq
      exact .inr (heq ▸ rfl)
    · exact .inl rfl
  have hclosed (m : Manager) : ((b.retire r).manager m).closed = (b.manager m).closed :=
    b.managers.get_modify_congr _ Manager.State.closed _ _ fun _ => rfl
  refine ⟨h.retire hopen,
    ⟨fun o ho => ?_, fun r' _ => hkept r', fun m _ hm => (hclosed m).trans hm⟩,
    Evolves.live_of_kept h (fun r' _ => hkept r') fun m _ hm => (hclosed m).trans hm,
    fun r' hr' hlive => ?_, fun r' hr' hlive => ?_, fun _ _ => rfl, fun j _ => ?_⟩
  · cases o with
    | manager m => rwa [Has, Bridge.retire, Bridge.modifyManager, Table.size_modify]
    | resource r' =>
      rwa [Has, Bridge.retire, Bridge.modifyManager, Bridge.settle, Table.size_modify]
    | _ => exact ho
  · have hne : r' ≠ r := by
      rintro rfl
      rw [Live, hread, if_pos rfl] at hlive
      exact Bool.noConfusion hlive.1
    rw [Registered, hread, if_neg hne, Registered, Bridge.retire, manager_modifyManager]
    split
    · rename_i hm
      have hid : (b.resource r').id ≠ (b.resource r).id := fun hid =>
        hne (h.id_injective hr' (has_of_open hopen) hm.1 hid)
      rw [hm.1]
      exact Registry.mem_erase.trans (and_iff_left hid)
    · rfl
  · rcases hkept r' with heq | heq <;> rw [Live, heq] at hlive
    · exact absurd (has_of_open hlive.1) hr'
    · exact Bool.noConfusion hlive.1
  · rw [conversionsOf, show (b.retire r).conversions = _ from b.conversions_settle r, conversionsOf]

theorem accept {b : Bridge σ} {m : Manager} (hm : (b.manager m).closed = false) (handle : Handle)
    (kind : Kind) (releaser : Releaser σ) : Tame consumed b (b.accept m handle kind releaser) := by
  intro h
  have hwf := h.enroll (has_of_manager_open hm) handle kind releaser
  have hold {r : Resource} (hr : r ≠ b.next) :
      (b.accept m handle kind releaser).resource r = b.resource r :=
    b.resource_enroll_of_ne m handle kind releaser hr
  have hclosed (m' : Manager) :
      ((b.accept m handle kind releaser).manager m').closed = (b.manager m').closed :=
    ((b.enroll m handle kind releaser).managers.get_modify_congr
      (·.enter (b.manager m).nextId b.next) Manager.State.closed m.index m'.index
      fun _ => rfl).trans (b.closed_enroll m m' handle kind releaser)
  have hregistered (id : Nat) (r : Resource) (m' : Manager) :
      (id, r) ∈ ((b.accept m handle kind releaser).manager m').registry ↔
        (id, r) ∈ (b.manager m').registry ∨ m' = m ∧ id = (b.manager m).nextId ∧ r = b.next := by
    rw [Bridge.accept, manager_modifyManager]
    split
    · rename_i hm'
      rw [Manager.State.enter, Registry.mem_insert (hwf.sorted m), registry_enroll, Prod.mk.injEq,
        hm'.1, eq_self, true_and]
      refine or_congr_right (and_iff_left fun e he hid => ?_)
      have hr := h.has_of_mem he
      obtain ⟨-, howner, hnumber⟩ := h.entry _ _ _ he
      have := h.id_lt _ hr
      rw [howner, hnumber, hid] at this
      exact Nat.lt_irrefl _ this
    · rename_i hm'
      rw [registry_enroll]
      refine (or_iff_left fun hnew => hm' ⟨hnew.1, ?_⟩).symm
      exact has_enroll b m handle kind releaser (o := .manager m) (has_of_manager_open hm)
  refine ⟨h.accept hm handle kind releaser, ⟨fun o ho => ?_, fun r hr => .inl (hold (ne_next hr)),
    fun m' _ hm' => (hclosed m').trans hm'⟩, fun r hr hlive => ?_, fun r hr _ => ?_,
    fun r hr hlive => ?_, fun _ _ => rfl, fun _ _ => rfl⟩
  · have := has_enroll b m handle kind releaser ho
    cases o with
    | manager m' => rwa [Has, Bridge.accept, Bridge.modifyManager, Table.size_modify]
    | _ => exact this
  · rwa [Live, hold (ne_next hr), hclosed] at hlive
  · rw [Registered, hold (ne_next hr), hregistered, Registered]
    exact or_iff_left fun hnew => ne_next hr hnew.2.2
  · by_cases hnew : r = b.next
    · subst hnew
      have hread := b.resource_enroll_next m handle kind releaser
      rw [Registered, show (b.accept m handle kind releaser).resource b.next = _ from hread]
      exact (hregistered _ _ _).2 (.inr ⟨rfl, rfl, rfl⟩)
    · rw [Live, hold hnew] at hlive
      exact absurd (has_of_open hlive.1) hr

theorem reject {b : Bridge σ} {m : Manager} (hm : b.Has (.manager m)) (handle : Handle)
    (kind : Kind) (releaser : Releaser σ) : Tame consumed b (b.reject m handle kind releaser) := by
  intro h
  have hread (r : Resource) : (b.reject m handle kind releaser).resource r = _ :=
    (b.enroll m handle kind releaser).resource_settle b.next r
  have hold {r : Resource} (hr : r ≠ b.next) :
      (b.reject m handle kind releaser).resource r = b.resource r := by
    rw [hread, if_neg hr, b.resource_enroll_of_ne m handle kind releaser hr]
  refine ⟨h.reject hm handle kind releaser, ⟨fun o ho => ?_, fun r hr => .inl (hold (ne_next hr)),
    fun m' _ hm' => (b.closed_enroll m m' handle kind releaser).trans hm'⟩, fun r hr hlive => ?_,
    fun r hr _ => ?_, fun r hr hlive => ?_, fun _ _ => rfl, fun j _ => ?_⟩
  · have := has_enroll b m handle kind releaser ho
    cases o with
    | resource r => rwa [Has, Bridge.reject, Bridge.settle, Table.size_modify]
    | _ => exact this
  · obtain ⟨hopen, hmanager⟩ := hlive
    rw [hold (ne_next hr)] at hopen hmanager
    exact ⟨hopen, (b.closed_enroll m _ handle kind releaser).symm.trans hmanager⟩
  · rw [Registered, hold (ne_next hr), Registered]
    exact iff_of_eq (congrArg (_ ∈ ·) (registry_enroll b m _ handle kind releaser))
  · by_cases hnew : r = b.next
    · rw [hnew, Live, hread, if_pos rfl] at hlive
      exact Bool.noConfusion hlive.1
    · rw [Live, hold hnew] at hlive
      exact absurd (has_of_open hlive.1) hr
  · rw [conversionsOf, show (b.reject m handle kind releaser).conversions = _ from
      (b.enroll m handle kind releaser).conversions_settle b.next]
    rfl

end Tame

end Bridge

theorem Quiet.conversionsOf {b b' : Bridge σ} (h : Quiet b b') (j : Job) :
    b'.conversionsOf j = b.conversionsOf j := by
  rw [Bridge.conversionsOf, h.conversions, Bridge.conversionsOf]

theorem Quiet.has {b b' : Bridge σ} (h : Quiet b b') (o : Object) : b'.Has o ↔ b.Has o := by
  cases o with
  | manager m => rw [Bridge.Has, h.managers, Bridge.Has]
  | resource r => rw [Bridge.Has, h.resources, Bridge.Has]
  | context c => rw [Bridge.Has, h.contexts, Bridge.Has]
  | job j => rw [Bridge.Has, h.jobs, Bridge.Has]
  | cancellation c => rw [Bridge.Has, h.cancellations, Bridge.Has]

theorem Quiet.endures {b b' : Bridge σ} (h : Quiet b b') : Bridge.Endures b b' :=
  ⟨fun o => (h.has o).2, fun r _ => .inl (h.resource r), fun m _ hm => (h.closed m).trans hm⟩

theorem Quiet.tame {consumed : Option Job} {b b' : Bridge σ} (h : Quiet b b') :
    Bridge.Tame consumed b b' :=
  .of_outline (fun o => (h.has o).2) h.managers h.outline h.resources h.releases
    (fun j _ => h.taken j) fun j _ => h.conversionsOf j

end HandleBridge
