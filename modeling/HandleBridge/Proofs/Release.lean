import HandleBridge.Proofs.Lifecycle

/-!
# Proofs/Release — what a release and an adoption come to

The end of a resource and the two ways in which an adoption ends, as changes of the bridge:
`retire`, `accept` and `reject`.  `Resource.release` and `Resource.adopt` do one of these, or
nothing, and no other call ever closes a resource or makes one.
-/

namespace HandleBridge

open HandleBridge.Action

variable {σ : Type}

namespace Bridge

/-- The bridge with a resource released and out of the registry of its manager. -/
def retire (b : Bridge σ) (r : Resource) : Bridge σ :=
  let s := b.resource r
  (b.settle r).modifyManager s.manager (·.withdraw s.id)

/-- The resource that is adopted next. -/
def next (b : Bridge σ) : Resource := ⟨b.resources.size⟩

/-- The bridge with a resource more, under the next number of a manager. -/
def enroll (b : Bridge σ) (m : Manager) (h : Handle) (kind : Kind) (releaser : Releaser σ) :
    Bridge σ :=
  (b.modifyManager m (·.number)).addResource
    ⟨(b.manager m).nextId, m, kind, h, releaser, b.machine.clock, false⟩

/-- The bridge with a resource more that its manager has registered. -/
def accept (b : Bridge σ) (m : Manager) (h : Handle) (kind : Kind) (releaser : Releaser σ) :
    Bridge σ :=
  (b.enroll m h kind releaser).modifyManager m (·.enter (b.manager m).nextId b.next)

/-- The bridge with a resource more that was released at once. -/
def reject (b : Bridge σ) (m : Manager) (h : Handle) (kind : Kind) (releaser : Releaser σ) :
    Bridge σ :=
  (b.enroll m h kind releaser).settle b.next

theorem resource_enroll_next (b : Bridge σ) (m : Manager) (h : Handle) (kind : Kind)
    (releaser : Releaser σ) :
    (b.enroll m h kind releaser).resource b.next =
      ⟨(b.manager m).nextId, m, kind, h, releaser, b.machine.clock, false⟩ :=
  b.resources.get_add_size _

theorem closed_enroll (b : Bridge σ) (m m' : Manager) (h : Handle) (kind : Kind)
    (releaser : Releaser σ) :
    ((b.enroll m h kind releaser).manager m').closed = (b.manager m').closed :=
  b.managers.get_modify_congr _ Manager.State.closed _ _ fun _ => rfl

theorem registry_enroll (b : Bridge σ) (m m' : Manager) (h : Handle) (kind : Kind)
    (releaser : Releaser σ) :
    ((b.enroll m h kind releaser).manager m').registry = (b.manager m').registry :=
  b.managers.get_modify_congr _ Manager.State.registry _ _ fun _ => rfl

theorem not_has_next (b : Bridge σ) : ¬ b.Has (.resource b.next) := Nat.lt_irrefl _

theorem ne_next {b : Bridge σ} {r : Resource} (hr : b.Has (.resource r)) : r ≠ b.next := by
  rintro rfl
  exact b.not_has_next hr

/-- What was there before an adoption is there afterwards. -/
theorem resource_enroll_of_ne (b : Bridge σ) (m : Manager) (h : Handle) (kind : Kind)
    (releaser : Releaser σ) {r : Resource} (hne : r ≠ b.next) :
    (b.enroll m h kind releaser).resource r = b.resource r :=
  ((b.modifyManager m (·.number)).resource_addResource _ r).trans (if_neg hne)

theorem has_enroll (b : Bridge σ) (m : Manager) (h : Handle) (kind : Kind) (releaser : Releaser σ)
    {o : Object} (ho : b.Has o) : (b.enroll m h kind releaser).Has o := by
  cases o with
  | manager m' => rwa [Has, Bridge.enroll, addResource, Bridge.modifyManager, Table.size_modify]
  | resource r =>
    rw [Has, Bridge.enroll, addResource, Table.size_add]
    exact Nat.lt_succ_of_lt ho
  | _ => exact ho

namespace WellFormed

variable {b : Bridge σ}

theorem retire (h : b.WellFormed) {r : Resource} (hopen : (b.resource r).closed = false) :
    (b.retire r).WellFormed := by
  -- The release action sees no registry, so the number can be taken out first.
  have hcomm : b.retire r =
      (b.modifyManager (b.resource r).manager (·.withdraw (b.resource r).id)).settle r := rfl
  have hwithdraw :
      (b.modifyManager (b.resource r).manager (·.withdraw (b.resource r).id)).WellFormed := by
    refine h.modifyManager _ (Nat.le_refl _) (fun id r' hmem => ?_) ((h.sorted _).erase _)
      (fun hm => ?_) (h.forsaken _)
    · exact h.entry _ id r' (Registry.mem_erase.1 hmem).1
    · exact congrArg (Registry.erase · _) (h.shut _ hm)
  rw [hcomm]
  refine hwithdraw.settle hopen fun m id hmem => ?_
  rw [manager_modifyManager] at hmem
  split at hmem
  · obtain ⟨hmem, hne⟩ := Registry.mem_erase.1 hmem
    exact hne (h.entry _ id r hmem).2.2.symm
  · rename_i hm
    refine hm ⟨(h.entry m id r hmem).2.1.symm, h.owner r (has_of_open hopen)⟩

theorem enroll (h : b.WellFormed) {m : Manager} (hm : b.Has (.manager m)) (handle : Handle)
    (kind : Kind) (releaser : Releaser σ) : (b.enroll m handle kind releaser).WellFormed := by
  have hnumber : (b.modifyManager m (·.number)).WellFormed :=
    h.modifyManager m (Nat.le_succ _) (h.entry m) (h.sorted m) (h.shut m) (h.forsaken m)
  have hread : (b.modifyManager m (·.number)).manager m = (b.manager m).number := by
    rw [manager_modifyManager, if_pos ⟨rfl, hm⟩]
  refine hnumber.addResource ?_ ?_ rfl fun r hr howner => ?_
  · rwa [Has, Bridge.modifyManager, Table.size_modify]
  · rw [hread]
    exact Nat.lt_succ_self _
  · have := h.id_lt r hr
    rwa [show (b.resource r).manager = m from howner] at this

theorem accept (h : b.WellFormed) {m : Manager} (hm : (b.manager m).closed = false)
    (handle : Handle) (kind : Kind) (releaser : Releaser σ) :
    (b.accept m handle kind releaser).WellFormed := by
  have hwf := h.enroll (has_of_manager_open hm) handle kind releaser
  refine hwf.modifyManager m (Nat.le_refl _) (fun id r hmem => ?_) ((hwf.sorted m).insert _ _)
    (fun hclosed => ?_) (hwf.forsaken m)
  · rcases (Registry.mem_insert (hwf.sorted m)).1 hmem with hmem | ⟨heq, -⟩
    · exact hwf.entry m id r hmem
    · obtain ⟨rfl, rfl⟩ := Prod.mk.inj heq
      rw [resource_enroll_next]
      exact ⟨rfl, rfl, rfl⟩
  · have hopen := b.closed_enroll m m handle kind releaser
    rw [show ((b.enroll m handle kind releaser).manager m).closed = true from hclosed, hm] at hopen
    exact Bool.noConfusion hopen

theorem reject (h : b.WellFormed) {m : Manager} (hm : b.Has (.manager m)) (handle : Handle)
    (kind : Kind) (releaser : Releaser σ) : (b.reject m handle kind releaser).WellFormed := by
  refine (h.enroll hm handle kind releaser).settle ?_ fun m' id hmem => ?_
  · rw [resource_enroll_next]
  · rw [registry_enroll] at hmem
    exact b.not_has_next (h.has_of_mem hmem)

end WellFormed

end Bridge

namespace Resource

/-- How a release ends. -/
def outcome (s : Resource.State σ) : Except Failure Unit :=
  match s.releaser.failure with
  | none => .ok ()
  | some e => .error e

/-- The release action runs on a resource that is closed already. -/
theorem runReleaser_apply (b : Bridge σ) (r : Resource) :
    r.runReleaser (b.resource r) (b.modifyResource r (·.shut)) =
      (outcome (b.resource r), b.settle r) := by
  rcases hsymbol : (b.resource r).releaser.symbol with _ | symbol <;>
  rcases hfailure : (b.resource r).releaser.failure with _ | e <;>
    simp [runReleaser, bind_apply, note?, ofFailure, hsymbol, hfailure, outcome, Bridge.settle,
      Bridge.farewell, Bridge.modifyResource, Bridge.withMachine, Bridge.note]

theorem release_of_closed {b : Bridge σ} {r : Resource} (h : (b.resource r).closed = true) :
    r.release b = (.ok false, b) := by
  simp [release, bind_apply, h]

/-- The remark about a release. -/
def releasedRemark (b : Bridge σ) (r : Resource) : Remark :=
  let s := b.resource r
  .released s.id s.kind (Duration.micros ((b.settle r).machine.clock - s.created)) (outcome s).isOk

/-- **An open resource is released**, and says how its release action ended. -/
theorem release_of_open {b : Bridge σ} {r : Resource} (h : (b.resource r).closed = false) :
    r.release b =
      ((outcome (b.resource r)).map fun _ => true,
        (b.retire r).note (.remarked (releasedRemark b r))) := by
  have hrun := runReleaser_apply b r
  rcases houtcome : outcome (b.resource r) with e | _ <;> rw [houtcome] at hrun <;>
    simp [release, bind_apply, h, hrun, remark, clock, Bridge.retire, releasedRemark, houtcome,
      Bridge.modifyManager, Except.map, Except.isOk, Except.toBool]

/-- An open resource is closed, with no failure if its release action ends with none. -/
theorem close_of_open {b : Bridge σ} {r : Resource} (h : (b.resource r).closed = false)
    (hfailure : (b.resource r).releaser.failure = none) :
    r.close b = (.ok (), (b.retire r).note (.remarked (releasedRemark b r))) := by
  have hrelease := release_of_open h
  rw [outcome, hfailure] at hrelease
  exact bind_of_ok hrelease

theorem enroll_apply (b : Bridge σ) (m : Manager) (h : Handle) (kind : Kind)
    (releaser : Releaser σ) :
    enroll m h kind releaser b = (.ok b.next, b.enroll m h kind releaser) := rfl

/-- A closed manager takes nothing: what it was offered is released at once. -/
theorem adopt_of_closed {b : Bridge σ} {m : Manager} (hm : (b.manager m).closed = true) (h : Handle)
    (kind : Kind) (releaser : Releaser σ) :
    adopt m h kind releaser b =
      (.error .managerClosed,
        (b.reject m h kind releaser).tell
          (releaser.failure.map (.unregisteredReleaseFailed kind))) := by
  have hrun := runReleaser_apply (b.enroll m h kind releaser) b.next
  rw [adopt, bind_of_ok (enroll_apply b m h kind releaser)]
  rw [Bridge.resource_enroll_next] at hrun
  rcases hfailure : releaser.failure with _ | e <;>
    simp [bind_apply, Bridge.closed_enroll, hm, Bridge.resource_enroll_next, hrun, outcome,
      hfailure, Bridge.reject, Bridge.tell, remark]

/-- **An open manager registers what it is offered.** -/
theorem adopt_of_open {b : Bridge σ} {m : Manager} (hm : (b.manager m).closed = false) (h : Handle)
    (kind : Kind) (releaser : Releaser σ) :
    adopt m h kind releaser b =
      (.ok b.next,
        (b.accept m h kind releaser).note (.remarked (.adopted (b.manager m).nextId kind))) := by
  rw [adopt, bind_of_ok (enroll_apply b m h kind releaser)]
  simp [bind_apply, Bridge.closed_enroll, hm, Bridge.resource_enroll_next, Bridge.accept, remark]

end Resource

end HandleBridge
