import HandleBridge.Proofs.Accounting
import HandleBridge.Proofs.Closing

/-!
# Proofs/Deregistration — a number is taken out of a registry, whoever bears it

`register` and `contains` ask which resource it is; `deregister` asks for its number only, and each
manager counts on its own.  So a manager that is given a resource of another one takes out its own
resource of the same number: `Manager.TakesOut` is what is expected, and it holds exactly when the
number has no other bearer in the registry (`Manager.takesOut_iff`).
-/

namespace HandleBridge

open Bridge

variable {σ : Type}

namespace Manager

/-- Is another resource registered with a manager under the number of a given one? -/
def HasNamesake (b : Bridge σ) (m : Manager) (r : Resource) : Prop :=
  ∃ q, q ≠ r ∧ m.contains b q = true ∧ (b.resource q).id = (b.resource r).id

/-- **Taking out one resource**: the answer tells whether it was registered, it is not registered
afterwards, and nothing happens to any other. -/
structure TakesOut (b : Bridge σ) (m : Manager) (r : Resource) : Prop where
  answer : (m.deregister r b).1 = .ok (m.contains b r)
  gone : m.contains (m.deregister r b).2 r = false
  others : ∀ q, q ≠ r → m.contains (m.deregister r b).2 q = m.contains b q

variable {b : Bridge σ} {m : Manager} {r q : Resource}

theorem contains_iff_mem (h : b.WellFormed) :
    m.contains b q = true ↔ ((b.resource q).id, q) ∈ (b.manager m).registry :=
  (h.sorted m).contains_iff

/-- What is registered afterwards was registered before, under another number. -/
theorem contains_deregister (h : b.WellFormed) :
    m.contains (m.deregister r b).2 q = true ↔
      m.contains b q = true ∧ (b.resource q).id ≠ (b.resource r).id := by
  rw [contains_iff_mem (h.deregister m r), resource, Operation.resources_deregister, ← resource,
    h.mem_deregister, contains_iff_mem h, eq_self, true_and]

/-- Somebody is found if the number has a bearer. -/
theorem holds_iff_contains (h : b.WellFormed) {id : Nat} :
    (b.manager m).registry.holds id = true ↔
      ∃ q, m.contains b q = true ∧ (b.resource q).id = id := by
  rw [Registry.holds_iff]
  refine exists_congr fun q => ⟨fun hmem => ?_, ?_⟩
  · obtain ⟨-, -, rfl⟩ := h.entry m id q hmem
    exact ⟨(contains_iff_mem h).2 hmem, rfl⟩
  · rintro ⟨hq, rfl⟩
    exact (contains_iff_mem h).1 hq

/-- **A resource is taken out and no other** exactly when its number has no other bearer. -/
theorem takesOut_iff (h : b.WellFormed) : m.TakesOut b r ↔ ¬ m.HasNamesake b r := by
  constructor
  · rintro hout ⟨q, hne, hq, hid⟩
    rw [← hout.others q hne, contains_deregister h] at hq
    exact hq.2 hid
  · intro hnone
    refine ⟨?_, ?_, fun q hne => ?_⟩
    · rw [m.deregister_apply]
      refine congrArg Except.ok (Bool.eq_iff_iff.2 ((holds_iff_contains h).trans ⟨?_, ?_⟩))
      · rintro ⟨q, hq, hid⟩
        by_cases hne : q = r
        · exact hne ▸ hq
        · exact absurd ⟨q, hne, hq, hid⟩ hnone
      · exact fun hr => ⟨r, hr, rfl⟩
    · exact Bool.eq_false_iff.2 fun hr => ((contains_deregister h).1 hr).2 rfl
    · have hkept (hq : m.contains b q = true) : (b.resource q).id ≠ (b.resource r).id :=
        fun hid => hnone ⟨q, hne, hq, hid⟩
      exact Bool.eq_iff_iff.2 ((contains_deregister h).trans (and_iff_left_of_imp hkept))

/-- A manager gives a number out once. -/
theorem not_hasNamesake_of_owner (h : b.WellFormed) (hr : b.Has (.resource r))
    (howner : (b.resource r).manager = m) : ¬ m.HasNamesake b r := by
  rintro ⟨q, hne, hq, hid⟩
  have hmem := (contains_iff_mem h).1 hq
  obtain ⟨-, howner', -⟩ := h.entry m _ q hmem
  exact hne (h.id_injective (h.has_of_mem hmem) hr (howner'.trans howner.symm) hid)

/-- A teardown passes over the number that was taken out, and keeps the order of the rest. -/
theorem stragglers_deregister (h : b.WellFormed) :
    m.stragglers (m.deregister r b).2 =
      (m.stragglers b).filter fun q => (b.resource q).id ≠ (b.resource r).id := by
  have hregistry : ((m.deregister r b).2.manager m).registry =
      (b.manager m).registry.erase (b.resource r).id := by
    rw [m.deregister_apply]
    split
    · rename_i hfound
      obtain ⟨q, hmem⟩ := Registry.holds_iff.1 hfound
      have hm : b.Has (.manager m) := (h.entry m _ q hmem).2.1 ▸ h.owner q (h.has_of_mem hmem)
      change ((b.modifyManager m _).manager m).registry = _
      rw [manager_modifyManager, if_pos ⟨rfl, hm⟩]
      rfl
    · rename_i hnone
      refine (List.filter_eq_self.2 fun e he => ?_).symm
      rw [decide_eq_true_eq]
      exact fun hid => hnone (Registry.holds_iff.2 ⟨e.2, hid ▸ he⟩)
  rw [stragglers, hregistry, Registry.erase, stragglers, List.filter_map]
  refine congrArg _ (List.filter_congr fun e he => ?_)
  obtain ⟨-, -, hid⟩ := h.entry m e.1 e.2 he
  simp only [Function.comp_apply, hid]

theorem manager_deregister_of_ne {m' : Manager} (hne : m' ≠ m) :
    (m.deregister r b).2.manager m' = b.manager m' := by
  rw [m.deregister_apply]
  split
  · change (b.modifyManager m _).manager m' = _
    rw [manager_modifyManager, if_neg fun heq => hne heq.1]
  · rfl

end Manager

namespace Run

variable {native : σ} {env : Environment} {b : Bridge σ}

/-- **What deregistering does.**  It goes by the number: the answer tells whether the number has a
bearer in the registry, that bearer is out afterwards and is not released by a teardown, and
everything else stays, also with other managers.  So it does what is expected exactly when no other
resource bears the number, and in particular for a resource that the manager adopted. -/
theorem deregistration (run : Run (.start native env) b) (m : Manager) {r : Resource}
    (hr : b.Has (.resource r)) :
    (m.TakesOut b r ↔ ¬ m.HasNamesake b r) ∧
    ((b.resource r).manager = m → m.TakesOut b r) ∧
    (∃ found, (m.deregister r b).1 = .ok found ∧
      (found = true ↔ ∃ q, m.contains b q = true ∧ (b.resource q).id = (b.resource r).id)) ∧
    (∀ q, m.contains (m.deregister r b).2 q = true ↔
      m.contains b q = true ∧ (b.resource q).id ≠ (b.resource r).id) ∧
    m.stragglers (m.deregister r b).2 =
      (m.stragglers b).filter (fun q => (b.resource q).id ≠ (b.resource r).id) ∧
    (∀ m', m' ≠ m → (m.deregister r b).2.manager m' = b.manager m') := by
  have h := run.ledger.wellFormed
  refine ⟨Manager.takesOut_iff h, fun howner => ?_, ⟨_, congrArg Prod.fst (m.deregister_apply b r),
    Manager.holds_iff_contains h⟩, fun q => Manager.contains_deregister h,
    Manager.stragglers_deregister h, fun m' => Manager.manager_deregister_of_ne⟩
  exact (Manager.takesOut_iff h).2 (Manager.not_hasNamesake_of_owner h hr howner)

/-- Two managers have a resource under the number one each, and the first takes out its own. -/
theorem deregistration_of_own :
    ∃ (b : Bridge Unit) (_ : Run (.start () []) b),
      b.Has (.resource ⟨0⟩) ∧ (b.resource ⟨0⟩).id = (b.resource ⟨1⟩).id ∧
        (⟨0⟩ : Manager).contains b ⟨0⟩ = true ∧ (⟨0⟩ : Manager).TakesOut b ⟨0⟩ := by
  let run₁ := (Run.done (b := Bridge.start () [])).call (.createManager 16) (by decide)
  let run₂ := run₁.call (.createManager 16) (by decide)
  let run₃ := run₂.call (.adopt ⟨0⟩ (.ofIndex 15) .value 0 none) (by decide)
  let run := run₃.call (.adopt ⟨1⟩ (.ofIndex 31) .value 0 none) (by decide)
  obtain ⟨-, hown, -⟩ := run.deregistration ⟨0⟩ (r := ⟨0⟩) (by decide)
  exact ⟨_, run, by decide, by decide, by decide, hown rfl⟩

/-- A manager that is given a resource of another one takes out its own of the same number, and says
that it was there. -/
theorem not_takesOut_foreign :
    ¬ ∀ (b : Bridge Unit) (_ : Run (.start () []) b) (m : Manager) (r : Resource),
      b.Has (.manager m) → b.Has (.resource r) → m.TakesOut b r := by
  intro h
  let run₁ := (Run.done (b := Bridge.start () [])).call (.createManager 16) (by decide)
  let run₂ := run₁.call (.createManager 16) (by decide)
  let run₃ := run₂.call (.adopt ⟨0⟩ (.ofIndex 15) .value 0 none) (by decide)
  let run := run₃.call (.adopt ⟨1⟩ (.ofIndex 31) .value 0 none) (by decide)
  have hout := h _ run ⟨0⟩ ⟨1⟩ (by decide) (by decide)
  have hfound : (Except.ok true : Except Failure Bool) = .ok false := hout.answer
  exact Bool.noConfusion (Except.ok.inj hfound)

end Run

end HandleBridge
