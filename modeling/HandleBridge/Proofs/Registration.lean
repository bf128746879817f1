import HandleBridge.Proofs.TameCalls

/-!
# Proofs/Registration — registering by hand, and what every run keeps

`register` and `deregister` are the two calls that are not tame: a resource goes into a registry or
out of it and stays as it is.  They keep a bridge well-formed all the same, so every run does, and
along every run objects stay, and nothing that was closed is opened again (`Bridge.Endures`).
-/

namespace HandleBridge

open HandleBridge.Action

variable {σ : Type}

namespace Manager

/-- **Registering** is refused, or puts an open resource back with its own, open manager. -/
theorem register_cases (b : Bridge σ) (m : Manager) (r : Resource) :
    (∃ e, m.register r b = (.error e, b)) ∨
      m.register r b = (.ok (), b.modifyManager m (·.enter (b.resource r).id r)) ∧
        (b.resource r).closed = false ∧ (b.resource r).manager = m ∧
        (b.manager m).closed = false := by
  rw [register, bind_of_ok (read_apply _ _), bind_of_ok (read_apply _ _)]
  split
  · exact .inl ⟨_, rfl⟩
  split
  · exact .inl ⟨_, rfl⟩
  split
  · exact .inl ⟨_, rfl⟩
  · rename_i howner hopen
    rw [bind_of_ok (read_apply _ _)]
    split
    · exact .inl ⟨_, rfl⟩
    · rename_i hm
      exact .inr ⟨rfl, Bool.eq_false_iff.2 hopen, not_not.1 howner, Bool.eq_false_iff.2 hm⟩

/-- **Taking a number out** of a registry. -/
theorem deregister_apply (b : Bridge σ) (m : Manager) (r : Resource) :
    m.deregister r b =
      (.ok ((b.manager m).registry.holds (b.resource r).id),
        if (b.manager m).registry.holds (b.resource r).id then
          (b.modifyManager m (·.withdraw (b.resource r).id)).note
            (.remarked (.deregistered (b.resource r).id (b.resource r).kind))
        else b) := by
  rw [deregister, bind_of_ok (read_apply _ _), bind_of_ok (read_apply _ _)]
  split <;> rename_i hfound <;> simp [bind_apply, hfound, remark]

end Manager

namespace Bridge

/-! ## Relations that no manager shows in -/

namespace Closes

variable {R : Bridge σ → Bridge σ → Prop} [IsPreorder (Bridge σ) R]

theorem create (hR : Closes R) (hadd : ∀ b s, R b (b.addManager s)) (capacity : Nat) :
    (Manager.create capacity : Action σ _).Ensures R := by
  rw [Manager.create]
  split
  · exact .pure _
  · exact .bind (.read _) fun _ => .bind (fun b => hadd b _) fun _ =>
      .bind (hR.remark _) fun _ => .pure _

theorem register (hmodify : ∀ b m f, R b (b.modifyManager m f)) (m : Manager) (r : Resource) :
    (m.register r : Action σ Unit).Ensures R := by
  intro b
  rcases m.register_cases b r with ⟨e, heq⟩ | ⟨heq, -⟩ <;> rw [heq]
  · exact Std.Refl.refl b
  · exact hmodify b m _

theorem deregister (hR : Closes R) (hmodify : ∀ b m f, R b (b.modifyManager m f)) (m : Manager)
    (r : Resource) : (m.deregister r : Action σ Bool).Ensures R := by
  intro b
  rw [m.deregister_apply]
  split
  · exact IsTrans.trans _ _ _ (hmodify b m _) (hR.quiet _ _ (Quiet.remarked _ _))
  · exact Std.Refl.refl b

end Closes

variable {b : Bridge σ}

/-! ## Registries that change by hand -/

theorem WellFormed.register (h : b.WellFormed) (m : Manager) (r : Resource) :
    (m.register r b).2.WellFormed := by
  rcases m.register_cases b r with ⟨e, heq⟩ | ⟨heq, hopen, howner, hm⟩ <;> rw [heq]
  · exact h
  · refine h.modifyManager m (Nat.le_refl _) (fun id r' hmem => ?_) ((h.sorted m).insert _ _)
      (fun hclosed => Bool.noConfusion (hclosed.symm.trans hm)) (h.forsaken m)
    rcases (Registry.mem_insert (h.sorted m)).1 hmem with hmem | ⟨heq, -⟩
    · exact h.entry m id r' hmem
    · obtain ⟨rfl, rfl⟩ := Prod.mk.inj heq
      exact ⟨hopen, howner, rfl⟩

theorem WellFormed.withdraw (h : b.WellFormed) (m : Manager) (id : Nat) :
    (b.modifyManager m (·.withdraw id)).WellFormed :=
  h.modifyManager m (Nat.le_refl _)
    (fun id' r hmem => h.entry m id' r (Registry.mem_erase.1 hmem).1) ((h.sorted m).erase _)
    (fun hm => congrArg (Registry.erase · id) (h.shut m hm)) (h.forsaken m)

theorem WellFormed.deregister (h : b.WellFormed) (m : Manager) (r : Resource) :
    (m.deregister r b).2.WellFormed := by
  rw [m.deregister_apply]
  split
  · exact (h.withdraw m _).quiet (Quiet.remarked _ _)
  · exact h

end Bridge

namespace Operation

variable {α : Type} {b : Bridge σ}

open Bridge

/-- **A call keeps a bridge well-formed**, and objects stay. -/
theorem wellFormed (op : Operation σ α) (known : op.Known b) (h : b.WellFormed) :
    (op.after b).WellFormed ∧ Endures b (op.after b) := by
  cases hop : op.rebooks with
  | false =>
    obtain ⟨hwf, hevolves⟩ := op.tame hop known h
    exact ⟨hwf, hevolves.toEndures⟩
  | true =>
    cases op with
    | register m r =>
      refine ⟨h.register m r, ?_⟩
      rw [after, perform]
      rcases m.register_cases b r with ⟨e, heq⟩ | ⟨heq, -⟩ <;> rw [heq]
      · exact .refl b
      · exact .modifyManager b m fun _ => rfl
    | deregister m r =>
      refine ⟨h.deregister m r, ?_⟩
      rw [after, perform, m.deregister_apply]
      split
      · have hwithdraw :=
          Endures.modifyManager b m (f := (·.withdraw (b.resource r).id)) fun _ => rfl
        exact hwithdraw.trans (Quiet.remarked _ _).endures
      · exact .refl b
    | _ => exact Bool.noConfusion hop

end Operation

namespace Run

open Bridge

variable {b b' : Bridge σ}

/-- **Runs keep bridges well-formed**, and objects stay. -/
theorem wellFormed (run : Run b b') (h : b.WellFormed) : b'.WellFormed ∧ Endures b b' := by
  induction run with
  | done => exact ⟨h, .refl b⟩
  | call run op known ih =>
    obtain ⟨hwf, hendures⟩ := op.wellFormed known ih.1
    exact ⟨hwf, ih.2.trans hendures⟩

end Run

end HandleBridge
