import HandleBridge.Proofs.Quiet
import HandleBridge.Proofs.Registry
import HandleBridge.Proofs.Run
import Mathlib.Tactic.ByContra

/-!
# Proofs/Lifecycle — what is true of every bridge between two calls

`Bridge.WellFormed` ties the three places together in which a resource leaves its traces: its own
state, the registry of its manager, and the releases in the journal.  Each change that the bridge is
made of keeps it, under the conditions that the calls check; a release and an adoption are two such
changes each.
-/

namespace HandleBridge

variable {σ : Type}

namespace Bridge

/-! ## Reading after a change -/

theorem manager_modifyManager (b : Bridge σ) (m m' : Manager) (f : Manager.State → Manager.State) :
    (b.modifyManager m f).manager m' =
      if m' = m ∧ b.Has (.manager m) then f (b.manager m) else b.manager m' := by
  cases m
  cases m'
  simp [manager, modifyManager, Table.get_modify, Has]

theorem resource_modifyResource (b : Bridge σ) (r r' : Resource)
    (f : Resource.State σ → Resource.State σ) :
    (b.modifyResource r f).resource r' =
      if r' = r ∧ b.Has (.resource r) then f (b.resource r) else b.resource r' := by
  cases r
  cases r'
  simp [resource, modifyResource, Table.get_modify, Has]

theorem job_modifyJob (b : Bridge σ) (j j' : Job) (f : Job.State σ → Job.State σ) :
    (b.modifyJob j f).job j' = if j' = j ∧ b.Has (.job j) then f (b.job j) else b.job j' := by
  cases j
  cases j'
  simp [job, modifyJob, Table.get_modify, Has]

theorem manager_addManager (b : Bridge σ) (s : Manager.State) (m : Manager) :
    (b.addManager s).manager m = if m = ⟨b.managers.size⟩ then s else b.manager m := by
  cases m
  simp [manager, addManager, Table.get_add]

theorem resource_addResource (b : Bridge σ) (s : Resource.State σ) (r : Resource) :
    (b.addResource s).resource r = if r = ⟨b.resources.size⟩ then s else b.resource r := by
  cases r
  simp [resource, addResource, Table.get_add]

theorem job_addJob (b : Bridge σ) (s : Job.State σ) (j : Job) :
    (b.addJob s).job j = if j = ⟨b.jobs.size⟩ then s else b.job j := by
  cases j
  simp [job, addJob, Table.get_add]

theorem resource_of_not_has {b : Bridge σ} {r : Resource} (h : ¬ b.Has (.resource r)) :
    b.resource r = default := b.resources.get_of_size_le (Nat.le_of_not_lt h)

theorem manager_of_not_has {b : Bridge σ} {m : Manager} (h : ¬ b.Has (.manager m)) :
    b.manager m = default := b.managers.get_of_size_le (Nat.le_of_not_lt h)

/-- An open resource was made. -/
theorem has_of_open {b : Bridge σ} {r : Resource} (h : (b.resource r).closed = false) :
    b.Has (.resource r) := by
  by_contra hr
  rw [resource_of_not_has hr] at h
  exact Bool.noConfusion h

/-- An open manager was made. -/
theorem has_of_manager_open {b : Bridge σ} {m : Manager} (h : (b.manager m).closed = false) :
    b.Has (.manager m) := by
  by_contra hm
  rw [manager_of_not_has hm] at h
  exact Bool.noConfusion h

/-! ## The end of a resource -/

/-- The events of a release: the call that disposes of the native object, if there is an entry point
for it, and the release itself. -/
def farewell (b : Bridge σ) (r : Resource) : List Event :=
  let s := b.resource r
  (s.releaser.symbol.map fun symbol => Event.called symbol (some s.handle)).toList ++
    [.released r s.handle s.releaser.failure]

/-- The bridge with a resource closed and its release action run. -/
def settle (b : Bridge σ) (r : Resource) : Bridge σ :=
  let s := b.resource r
  { b with
    machine := s.releaser.run s.handle b.machine
    resources := b.resources.modify r.index (·.shut)
    journal := b.journal ++ b.farewell r }

theorem resource_settle (b : Bridge σ) (r r' : Resource) :
    (b.settle r).resource r' = if r' = r then (b.resource r).shut else b.resource r' := by
  rw [show (b.settle r).resource r' = (b.modifyResource r (·.shut)).resource r' from rfl,
    resource_modifyResource]
  by_cases heq : r' = r
  · subst heq
    by_cases hr : b.Has (.resource r')
    · rw [if_pos ⟨rfl, hr⟩, if_pos rfl]
    · rw [if_neg fun h => hr h.2, if_pos rfl, resource_of_not_has hr]
      rfl
  · rw [if_neg fun h => heq h.1, if_neg heq]

theorem releases_settle (b : Bridge σ) (r : Resource) :
    (b.settle r).releases =
      b.releases ++ [(r, (b.resource r).handle, (b.resource r).releaser.failure)] := by
  have hcalled : ((b.resource r).releaser.symbol.map fun symbol =>
      Event.called symbol (some (b.resource r).handle)).toList.filterMap Event.release? = [] := by
    cases (b.resource r).releaser.symbol <;> rfl
  simp only [releases, settle, farewell, List.filterMap_append, hcalled]
  rfl

theorem conversions_settle (b : Bridge σ) (r : Resource) :
    (b.settle r).conversions = b.conversions := by
  have hcalled : ((b.resource r).releaser.symbol.map fun symbol =>
      Event.called symbol (some (b.resource r).handle)).toList.filterMap Event.conversion? =
        [] := by
    cases (b.resource r).releaser.symbol <;> rfl
  simp only [conversions, settle, farewell, List.filterMap_append, hcalled]
  exact List.append_nil _

/-! ## The invariant -/

/-- The handles that the release action of a resource was given, in order. -/
def releasesOf (b : Bridge σ) (r : Resource) : List Handle :=
  (b.releases.filter (·.1 = r)).map (·.2.1)

theorem releasesOf_settle (b : Bridge σ) (r r' : Resource) :
    (b.settle r).releasesOf r' =
      b.releasesOf r' ++ if r' = r then [(b.resource r).handle] else [] := by
  rw [releasesOf, releases_settle, List.filter_append, List.map_append]
  congr 1
  by_cases h : r' = r
  · simp [h]
  · simp [h, Ne.symm h]

/-- The handles that a resource must have been released with by now: its own, once it is closed. -/
def due (b : Bridge σ) (r : Resource) : List Handle :=
  if (b.resource r).closed then [(b.resource r).handle] else []

/-- **Resources, registries and releases agree.** -/
structure WellFormed (b : Bridge σ) : Prop where
  /-- A resource was adopted by a manager. -/
  owner : ∀ r, b.Has (.resource r) → b.Has (.manager (b.resource r).manager)
  /-- Its number was given out. -/
  id_lt : ∀ r, b.Has (.resource r) → (b.resource r).id < (b.manager (b.resource r).manager).nextId
  /-- A manager numbers its resources in the order in which they come. -/
  id_lt_id : ∀ r r', b.Has (.resource r') → r.index < r'.index →
    (b.resource r).manager = (b.resource r').manager → (b.resource r).id < (b.resource r').id
  /-- A registered resource is open and stands under its own number with its own manager. -/
  entry : ∀ m id r, (id, r) ∈ (b.manager m).registry →
    (b.resource r).closed = false ∧ (b.resource r).manager = m ∧ (b.resource r).id = id
  sorted : ∀ m, (b.manager m).registry.Sorted
  /-- A closed manager has nothing registered. -/
  shut : ∀ m, (b.manager m).closed = true → (b.manager m).registry = []
  /-- A manager whose wrapper is gone is closed. -/
  forsaken : ∀ m, (b.manager m).dropped = true → (b.manager m).closed = true
  /-- A release action runs when its resource is closed, once and with its handle. -/
  released : ∀ r, b.Has (.resource r) → b.releasesOf r = b.due r
  /-- What was not adopted was not released. -/
  unborn : ∀ r, ¬ b.Has (.resource r) → b.releasesOf r = []

namespace WellFormed

theorem start (native : σ) (env : Environment) : (Bridge.start native env).WellFormed where
  owner _ h := absurd h (Nat.not_lt_zero _)
  id_lt _ h := absurd h (Nat.not_lt_zero _)
  id_lt_id _ _ h := absurd h (Nat.not_lt_zero _)
  entry _ _ _ h := absurd h List.not_mem_nil
  sorted _ := Registry.sorted_nil
  shut _ _ := rfl
  forsaken _ _ := rfl
  released _ h := absurd h (Nat.not_lt_zero _)
  unborn _ _ := rfl

variable {b b' : Bridge σ}

theorem has_of_mem (h : b.WellFormed) {m : Manager} {id : Nat} {r : Resource}
    (hmem : (id, r) ∈ (b.manager m).registry) : b.Has (.resource r) :=
  has_of_open (h.entry m id r hmem).1

/-- A number stands for one resource of a manager. -/
theorem id_injective (h : b.WellFormed) {r r' : Resource} (hr : b.Has (.resource r))
    (hr' : b.Has (.resource r')) (hm : (b.resource r).manager = (b.resource r').manager)
    (hid : (b.resource r).id = (b.resource r').id) : r = r' := by
  rcases Nat.lt_trichotomy r.index r'.index with hlt | heq | hlt
  · have := h.id_lt_id r r' hr' hlt hm
    omega
  · cases r
    cases r'
    exact congrArg Resource.mk heq
  · have := h.id_lt_id r' r hr hlt hm.symm
    omega

/-- A resource is registered once. -/
theorem nodup (h : b.WellFormed) (m : Manager) : ((b.manager m).registry.map Prod.snd).Nodup := by
  refine List.pairwise_map.2 ((h.sorted m).imp_of_mem fun {e e'} he he' hlt heq => ?_)
  have hid := (h.entry m e.1 e.2 he).2.2
  have hid' := (h.entry m e'.1 e'.2 he').2.2
  rw [heq, hid'] at hid
  exact Nat.ne_of_lt hlt hid

/-! ## Changes that keep it -/

/-- A change that neither managers nor resources nor releases show. -/
theorem of_outline (h : b.WellFormed) (hsize : b'.managers.size = b.managers.size)
    (houtline : ∀ m, (b'.manager m).outline = (b.manager m).outline)
    (hres : b'.resources = b.resources) (hrel : b'.releases = b.releases) : b'.WellFormed := by
  have hregistry (m : Manager) : (b'.manager m).registry = (b.manager m).registry :=
    show (b'.manager m).outline.registry = _ from houtline m ▸ rfl
  have hclosed (m : Manager) : (b'.manager m).closed = (b.manager m).closed := by
    rw [← Manager.State.closed_outline, houtline, Manager.State.closed_outline]
  have hresource (r : Resource) : b'.resource r = b.resource r := by
    rw [resource, hres, resource]
  have hdropped (m : Manager) : (b'.manager m).dropped = (b.manager m).dropped :=
    show (b'.manager m).outline.dropped = _ from houtline m ▸ rfl
  have hhas (r : Resource) : b'.Has (.resource r) ↔ b.Has (.resource r) := by simp only [Has, hres]
  have hof (r : Resource) : b'.releasesOf r = b.releasesOf r := by simp only [releasesOf, hrel]
  refine ⟨fun r hr => ?_, fun r hr => ?_, fun r r' hr' => ?_, fun m id r => ?_, fun m => ?_,
    fun m hm => ?_, fun m hm => ?_, fun r hr => ?_, fun r hr => ?_⟩
  · rw [hresource, Has, hsize]
    exact h.owner r ((hhas r).1 hr)
  · have := h.id_lt r ((hhas r).1 hr)
    rw [hresource]
    show _ < (b'.manager _).outline.nextId
    rw [houtline]
    exact this
  · rw [hresource, hresource]
    exact h.id_lt_id r r' ((hhas r').1 hr')
  · rw [hregistry, hresource]
    exact h.entry m id r
  · rw [hregistry]
    exact h.sorted m
  · rw [hregistry]
    exact h.shut m (hclosed m ▸ hm)
  · rw [hclosed]
    exact h.forsaken m (hdropped m ▸ hm)
  · rw [hof, due, hresource]
    exact h.released r ((hhas r).1 hr)
  · rw [hof]
    exact h.unborn r fun hr' => hr ((hhas r).2 hr')

theorem quiet (h : b.WellFormed) (hq : Quiet b b') : b'.WellFormed :=
  h.of_outline hq.managers hq.outline hq.resources hq.releases

/-- A scope whose registry, number and state change in a way that fits the resources. -/
theorem modifyManager (h : b.WellFormed) (m : Manager) {f : Manager.State → Manager.State}
    (hid : (b.manager m).nextId ≤ (f (b.manager m)).nextId)
    (hentry : ∀ id r, (id, r) ∈ (f (b.manager m)).registry →
      (b.resource r).closed = false ∧ (b.resource r).manager = m ∧ (b.resource r).id = id)
    (hsorted : (f (b.manager m)).registry.Sorted)
    (hshut : (f (b.manager m)).closed = true → (f (b.manager m)).registry = [])
    (hforsaken : (f (b.manager m)).dropped = true → (f (b.manager m)).closed = true) :
    (b.modifyManager m f).WellFormed where
  owner r hr := by
    have := h.owner r hr
    rwa [Has, Bridge.modifyManager, Table.size_modify]
  id_lt r hr := by
    have := h.id_lt r hr
    rw [manager_modifyManager]
    split
    · rename_i hm
      exact Nat.lt_of_lt_of_le (hm.1 ▸ this) hid
    · exact this
  id_lt_id := h.id_lt_id
  entry m' id r hmem := by
    rw [manager_modifyManager] at hmem
    split at hmem
    · rename_i hm
      obtain ⟨hopen, howner, hnumber⟩ := hentry id r hmem
      exact ⟨hopen, howner.trans hm.1.symm, hnumber⟩
    · exact h.entry m' id r hmem
  sorted m' := by
    rw [manager_modifyManager]
    split
    · exact hsorted
    · exact h.sorted m'
  shut m' := by
    rw [manager_modifyManager]
    split
    · exact hshut
    · exact h.shut m'
  forsaken m' := by
    rw [manager_modifyManager]
    split
    · exact hforsaken
    · exact h.forsaken m'
  released := h.released
  unborn := h.unborn

theorem addManager (h : b.WellFormed) (region : Region) :
    (b.addManager (.ofRegion region)).WellFormed := by
  have hread (m : Manager) (hm : b.Has (.manager m)) :
      (b.addManager (.ofRegion region)).manager m = b.manager m := by
    rw [manager_addManager, if_neg]
    rintro rfl
    exact Nat.lt_irrefl _ hm
  refine { h with owner := fun r hr => ?_, id_lt := fun r hr => ?_, entry := fun m id r hmem => ?_,
                  sorted := fun m => ?_, shut := fun m hm => ?_, forsaken := fun m hm => ?_ }
  · have := h.owner r hr
    rw [Has, Bridge.addManager, Table.size_add]
    exact Nat.lt_succ_of_lt this
  · rw [show (b.addManager _).resource r = b.resource r from rfl, hread _ (h.owner r hr)]
    exact h.id_lt r hr
  · rw [manager_addManager] at hmem
    split at hmem
    · exact absurd hmem List.not_mem_nil
    · exact h.entry m id r hmem
  · rw [manager_addManager]
    split
    · exact Registry.sorted_nil
    · exact h.sorted m
  · rw [manager_addManager] at hm ⊢
    split at hm
    · exact Bool.noConfusion hm
    · rename_i hne
      rw [if_neg hne]
      exact h.shut m hm
  · rw [manager_addManager] at hm ⊢
    split at hm
    · exact Bool.noConfusion hm
    · rename_i hne
      rw [if_neg hne]
      exact h.forsaken m hm

/-- An open resource under a number above those of its manager's other resources. -/
theorem addResource (h : b.WellFormed) {s : Resource.State σ} (howner : b.Has (.manager s.manager))
    (hid : s.id < (b.manager s.manager).nextId) (hopen : s.closed = false)
    (habove : ∀ r, b.Has (.resource r) → (b.resource r).manager = s.manager →
      (b.resource r).id < s.id) :
    (b.addResource s).WellFormed := by
  have hhas {r : Resource} : (b.addResource s).Has (.resource r) ↔
      b.Has (.resource r) ∨ r = ⟨b.resources.size⟩ := by
    rw [Has, Bridge.addResource, Table.size_add, Nat.lt_succ_iff_lt_or_eq]
    exact or_congr_right ⟨congrArg Resource.mk, congrArg Resource.index⟩
  have hold {r : Resource} (hr : b.Has (.resource r)) :
      (b.addResource s).resource r = b.resource r := by
    rw [resource_addResource, if_neg]
    rintro rfl
    exact Nat.lt_irrefl _ hr
  have hnew : (b.addResource s).resource ⟨b.resources.size⟩ = s := by
    rw [resource_addResource, if_pos rfl]
  have hunborn : ¬ b.Has (.resource ⟨b.resources.size⟩) := Nat.lt_irrefl _
  refine { h with owner := fun r hr => ?_, id_lt := fun r hr => ?_,
                  id_lt_id := fun r r' hr' hlt => ?_, entry := fun m id r hmem => ?_,
                  released := fun r hr => ?_, unborn := fun r hr => ?_ }
  · rcases hhas.1 hr with hr | rfl
    · rw [hold hr]
      exact h.owner r hr
    · rw [hnew]
      exact howner
  · rcases hhas.1 hr with hr | rfl
    · rw [hold hr]
      exact h.id_lt r hr
    · rw [hnew]
      exact hid
  · rcases hhas.1 hr' with hr' | rfl
    · have hr : b.Has (.resource r) := Nat.lt_trans hlt hr'
      rw [hold hr, hold hr']
      exact h.id_lt_id r r' hr' hlt
    · have hr : b.Has (.resource r) := hlt
      rw [hold hr, hnew]
      exact habove r hr
  · rw [hold (h.has_of_mem hmem)]
    exact h.entry m id r hmem
  · rcases hhas.1 hr with hr | rfl
    · rw [due, hold hr]
      exact h.released r hr
    · rw [due, hnew, hopen]
      exact h.unborn _ hunborn
  · exact h.unborn r fun hr' => hr (hhas.2 (.inl hr'))

/-- An open resource that nobody has registered is closed with its release action run. -/
theorem settle (h : b.WellFormed) {r : Resource} (hopen : (b.resource r).closed = false)
    (hfree : ∀ m id, (id, r) ∉ (b.manager m).registry) : (b.settle r).WellFormed := by
  have hhas (r' : Resource) : (b.settle r).Has (.resource r') ↔ b.Has (.resource r') := by
    rw [Has, Bridge.settle, Table.size_modify, Has]
  have hmanager (r' : Resource) : ((b.settle r).resource r').manager = (b.resource r').manager :=
    b.resources.get_modify_congr _ Resource.State.manager _ _ fun _ => rfl
  have hid (r' : Resource) : ((b.settle r).resource r').id = (b.resource r').id :=
    b.resources.get_modify_congr _ Resource.State.id _ _ fun _ => rfl
  refine { h with owner := fun r' hr' => ?_, id_lt := fun r' hr' => ?_,
                  id_lt_id := fun r' r'' hr'' hlt => ?_, entry := fun m id r' hmem => ?_,
                  released := fun r' hr' => ?_, unborn := fun r' hr' => ?_ }
  · rw [hmanager]
    exact h.owner r' ((hhas r').1 hr')
  · rw [hmanager, hid]
    exact h.id_lt r' ((hhas r').1 hr')
  · rw [hmanager, hmanager, hid, hid]
    exact h.id_lt_id r' r'' ((hhas r'').1 hr'') hlt
  · have hne : r' ≠ r := by
      rintro rfl
      exact hfree m id hmem
    rw [resource_settle, if_neg hne]
    exact h.entry m id r' hmem
  · have hr : b.Has (.resource r) := has_of_open hopen
    rw [releasesOf_settle, due, resource_settle]
    split
    · rename_i heq
      subst heq
      rw [h.released r' hr, due, hopen]
      rfl
    · rw [h.released r' ((hhas r').1 hr'), due, List.append_nil]
  · have hne : r' ≠ r := by
      rintro rfl
      exact hr' ((hhas r').2 (has_of_open hopen))
    rw [releasesOf_settle, if_neg hne, List.append_nil]
    exact h.unborn r' fun hr => hr' ((hhas r').2 hr)

end WellFormed

end Bridge

end HandleBridge
