import HandleBridge.Proofs.Surrendering
import HandleBridge.Proofs.Walks

/-!
# Proofs/Regions — a cell is freed once its region has no owner left, and not before

A scope owns its region until it hands it back, and so does every buffer of the region that is in
somebody's hands.  Memory is tidy (`Bridge.Tidy`) if there is neither a cell without an owner nor an
owner without its cells.  A step keeps it so (`Step.tidy`), whichever owner comes or goes.

After a call a closed scope has handed its region back, so what became of a cell is told by what
everybody knows: whether the scope was closed, and who still holds a buffer (`Run.freed_iff`).
-/

namespace HandleBridge

variable {σ : Type}

/-- What a write leaves at a place was there before it, but for what a cell holds. -/
theorem Scratch.mem_slots_write {s : Scratch} {buffer : Buffer} {offset : Nat} {cell : Cell}
    {slot : Slot} (h : slot ∈ (s.write buffer offset cell).slots) :
    ∃ old ∈ s.slots, slot.region = old.region ∧ (slot.cell = none ↔ old.cell = none) := by
  rw [write] at h
  split at h
  · obtain ⟨i, hi⟩ := List.mem_iff_getElem?.1 h
    rw [List.getElem?_modify] at hi
    obtain ⟨old, hold, heq⟩ := Option.map_eq_some_iff.1 hi
    refine ⟨old, List.mem_of_getElem? hold, ?_⟩
    split at heq <;> subst heq
    · exact ⟨old.region_put cell, old.cell_put_eq_none cell⟩
    · exact ⟨rfl, Iff.rfl⟩
  · exact ⟨slot, h, rfl, Iff.rfl⟩

namespace Bridge

variable {b b' : Bridge σ}

/-- **A cell is there for as long as its region has an owner.** -/
structure Tidy (b : Bridge σ) : Prop where
  has : ∀ slot ∈ b.scratch.slots, b.Has (.manager slot.region)
  freed : ∀ slot ∈ b.scratch.slots, slot.cell = none ↔ ¬ b.Owned slot.region

theorem ended_enroll (b : Bridge σ) (m m' : Manager) (handle : Handle) (kind : Kind)
    (releaser : Releaser σ) :
    ((b.enroll m handle kind releaser).manager m').phase = .ended ↔
      (b.manager m').phase = .ended :=
  b.ended_modifyManager m (f := (·.number)) (fun _ => Iff.rfl) m'

namespace Tidy

theorem start (native : σ) (env : Environment) : (Bridge.start native env).Tidy :=
  ⟨fun _ hslot => absurd hslot List.not_mem_nil, fun _ hslot => absurd hslot List.not_mem_nil⟩

/-- Nothing happens to memory or to its owners. -/
theorem of_same (h : b.Tidy) (hscratch : b'.scratch = b.scratch)
    (hhas : ∀ o, b.Has o → b'.Has o)
    (hended : ∀ m, b.Has (.manager m) →
      ((b'.manager m).phase = .ended ↔ (b.manager m).phase = .ended)) : b'.Tidy := by
  refine ⟨fun slot hslot => ?_, fun slot hslot => ?_⟩ <;> rw [hscratch] at hslot
  · exact hhas _ (h.has slot hslot)
  · rw [owned_congr (congrArg Scratch.held hscratch) (hended _ (h.has slot hslot))]
    exact h.freed slot hslot

/-! ### Memory is taken, handed out and written -/

/-- Fresh cells have an owner, for their scope is open. -/
theorem carve (h : b.Tidy) {m : Manager} (hm : (b.manager m).closed = false) {s : Scratch}
    (hs : Scratch.Carved m b.scratch s) : (b.withScratch s).Tidy := by
  obtain ⟨cells, rfl⟩ := hs
  refine ⟨fun slot hslot => ?_, fun slot hslot => ?_⟩ <;>
    rcases List.mem_append.1 hslot with hold | hfresh
  · exact h.has slot hold
  · obtain ⟨cell, -, rfl⟩ := List.mem_map.1 hfresh
    exact has_of_manager_open hm
  · exact h.freed slot hold
  · obtain ⟨cell, -, rfl⟩ := List.mem_map.1 hfresh
    have howned : b.Owned m := .inl (Manager.State.phase_ne_ended hm)
    exact iff_of_false (Option.some_ne_none cell) (not_not_intro howned)

/-- A buffer that is handed out is one owner more where there was one. -/
theorem hold (h : b.Tidy) {buffer : Buffer} (hbuffer : b.Owned buffer.region) :
    (b.withScratch (b.scratch.hold buffer)).Tidy := by
  refine ⟨h.has, fun slot hslot => (h.freed slot hslot).trans (not_congr ⟨?_, ?_⟩)⟩
  · exact Or.imp_right fun ⟨other, hmem, hother⟩ => ⟨other, List.mem_cons_of_mem _ hmem, hother⟩
  · rintro (hended | ⟨other, hmem, hother⟩)
    · exact .inl hended
    · rcases List.mem_cons.1 hmem with rfl | hmem
      · exact hother ▸ hbuffer
      · exact .inr ⟨other, hmem, hother⟩

theorem write (h : b.Tidy) (buffer : Buffer) (offset : Nat) (cell : Cell) :
    (b.withScratch (b.scratch.write buffer offset cell)).Tidy := by
  have howned (m : Manager) :
      (b.withScratch (b.scratch.write buffer offset cell)).Owned m ↔ b.Owned m :=
    owned_congr (b.scratch.held_write buffer offset cell) Iff.rfl
  refine ⟨fun slot hslot => ?_, fun slot hslot => ?_⟩ <;>
    obtain ⟨old, hold, hregion, hcell⟩ := Scratch.mem_slots_write hslot <;> rw [hregion]
  · exact h.has old hold
  · rw [howned, hcell]
    exact h.freed old hold

/-! ### An owner goes -/

/-- One owner of a region is gone, and without any its cells are freed. -/
theorem reclaim (h : b.Tidy) (b' : Bridge σ) {m : Manager}
    (hslots : b'.scratch.slots = b.scratch.slots) (hhas : ∀ o, b.Has o → b'.Has o)
    (hothers : ∀ m', m' ≠ m → (b'.Owned m' ↔ b.Owned m'))
    (hfewer : b'.Owned m → b.Owned m) : (b'.reclaim m).Tidy := by
  have hslot {slot : Slot} (hslot : slot ∈ b'.scratch.slots) : slot ∈ b.scratch.slots :=
    hslots ▸ hslot
  rw [Bridge.reclaim]
  split
  · rename_i hm
    refine ⟨fun slot hs => hhas _ (h.has slot (hslot hs)), fun slot hs => ?_⟩
    rw [h.freed slot (hslot hs)]
    by_cases heq : slot.region = m
    · rw [heq]
      exact iff_of_false (not_not_intro (hfewer hm)) (not_not_intro hm)
    · rw [hothers _ heq]
  · rename_i hm
    refine ⟨fun after hafter => ?_, fun after hafter => ?_⟩ <;>
      obtain ⟨slot, hs, rfl⟩ := List.mem_map.1 hafter <;> rw [Slot.region_free]
    · exact hhas _ (h.has slot (hslot hs))
    · change _ ↔ ¬ b'.Owned slot.region
      by_cases heq : slot.region = m
      · rw [Slot.free, if_pos heq, heq]
        exact iff_of_true rfl hm
      · rw [Slot.free, if_neg heq, hothers _ heq]
        exact h.freed slot (hslot hs)

theorem letGo (h : b.Tidy) (buffer : Buffer) : (b.letGo buffer).Tidy := by
  refine h.reclaim (b.withScratch (b.scratch.letGo buffer)) rfl (fun _ => id)
    (fun m hm => or_congr_right ?_) (Or.imp_right ?_)
  · refine exists_congr fun other => and_congr_left fun hother => ?_
    exact List.mem_erase_of_ne fun heq => hm (heq ▸ hother.symm)
  · exact fun ⟨other, hmem, hother⟩ => ⟨other, List.mem_of_mem_erase hmem, hother⟩

theorem handBack (h : b.Tidy) (m : Manager) : (b.handBack m).Tidy := by
  refine h.reclaim (b.modifyManager m (·.handBack)) rfl
    (fun o => (has_modifyManager b m _ o).2) (fun m' hm' => ?_) (Or.imp_left ?_)
  · refine owned_congr rfl ?_
    rw [manager_modifyManager, if_neg fun heq => hm' heq.1]
  · rw [manager_modifyManager]
    split
    · exact fun hback hended => hback (by rw [Manager.State.handBack, hended]; rfl)
    · exact id

end Tidy

end Bridge

open Bridge

variable {T : Terms σ} {b b' : Bridge σ}

/-- **A step keeps memory tidy.** -/
theorem Step.tidy (h : Step T b b') (ht : b.Tidy) : b'.Tidy := by
  have hhas := h.remains.has
  cases h with
  | still quiet machine regions => exact ht.of_same regions.scratch hhas fun m _ => regions.ended m
  | carve hm hs => exact ht.carve hm hs
  | hold h => exact ht.hold h
  | write buffer offset cell => exact ht.write buffer offset cell
  | letGo buffer => exact ht.letGo buffer
  | handBack m => exact ht.handBack m
  | create region =>
    refine ht.of_same rfl hhas fun m hm => ?_
    rw [manager_addManager, if_neg]
    rintro rfl
    exact Nat.lt_irrefl _ hm
  | shut m =>
    exact ht.of_same rfl hhas fun m' _ =>
      b.ended_modifyManager m (fun s => s.phase.close_eq_ended) m'
  | forsake | enter | withdraw =>
    refine ht.of_same rfl hhas fun m' _ => b.ended_modifyManager _ (fun _ => ?_) m'
    exact Iff.rfl
  | @accept m hm handle kind releaser hr =>
    refine ht.of_same rfl hhas fun m' _ => Iff.trans ?_ (b.ended_enroll m m' handle kind releaser)
    exact ended_modifyManager _ m (f := (·.enter _ _)) (fun _ => Iff.rfl) m'
  | @reject m hm handle kind releaser hr =>
    exact ht.of_same rfl hhas fun m' _ => b.ended_enroll m m' handle kind releaser
  | @retire r hr =>
    exact ht.of_same rfl hhas fun m' _ =>
      ended_modifyManager (b.settle r) _ (f := (·.withdraw _)) (fun _ => Iff.rfl) m'
  | _ => exact ht.of_same rfl hhas fun _ _ => Iff.rfl

theorem Walk.tidy (h : Walk T b b') (ht : b.Tidy) : b'.Tidy := by
  induction h with
  | refl => exact ht
  | tail _ hstep ih => exact hstep.tidy ih

namespace Run

variable {native : σ} {env : Environment}

/-- **After every call memory is tidy.** -/
theorem tidy (run : Run (.start native env) b) : b.Tidy :=
  (run.walk_any (.start .any native env)).1.tidy (.start native env)

/-- **After every call every scope is open or has ended.** -/
theorem atRest (run : Run (.start native env) b) (m : Manager) : (b.manager m).AtRest := by
  induction run with
  | done => exact fun _ => Phase.noConfusion
  | call run op known ih => exact op.atRest _ m ih

/-- **A cell is freed once its scope was closed and nobody holds a buffer of its region**, and not
before. -/
theorem freed_iff (run : Run (.start native env) b) {slot : Slot} (h : slot ∈ b.scratch.slots) :
    slot.cell = none ↔ (b.manager slot.region).closed = true ∧
      ∀ buffer ∈ b.scratch.held, buffer.region ≠ slot.region := by
  rw [run.tidy.freed slot h, Owned, not_or, not_not, (run.atRest slot.region).closed_iff,
    not_exists]
  exact and_congr_right fun _ => forall_congr' fun _ => not_and

/-- A buffer keeps the cells of a closed scope until it is let go of. -/
example :
    let b₁ := (Operation.createManager 16).after (.start () [])
    let b₂ := (Operation.allocate ⟨0⟩ (.cells [.flag true])).after b₁
    let b₃ := (Operation.closeManager ⟨0⟩).after b₂
    let b₄ := (Operation.dropBuffer ⟨⟨0⟩, 0, 1⟩).after b₃
    b₃.scratch.slots.map (·.cell) = [some (.flag true)] ∧
      b₄.scratch.slots.map (·.cell) = [none] := by
  decide

end Run

end HandleBridge
