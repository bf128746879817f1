import HandleBridge.Proofs.Retaining

/-!
# Proofs/Surrendering — no call frees what somebody still owns

Who gives up a share in a region, by closing its scope or by letting go of a buffer, frees its cells
if the share was the last.  `Bridge.Surrenders` says what such a call comes to, and together with
what all other calls retain it follows that a cell is as it was for as long as its region has an
owner (`Operation.keeps_owned`), unless somebody writes to it.

A scope is closed in four parts (`Manager.close_parts`), and has its region until all that was left
in it was released.
-/

namespace HandleBridge

open HandleBridge.Action Bridge

variable {σ α : Type}

/-! ## Shares in a region -/

namespace Bridge

variable {b b' : Bridge σ} {m : Manager}

/-- A region has an owner as before if its scope has it as before and the same buffers are held. -/
theorem owned_congr {m : Manager} (hheld : b'.scratch.held = b.scratch.held)
    (hended : (b'.manager m).phase = .ended ↔ (b.manager m).phase = .ended) :
    b'.Owned m ↔ b.Owned m := by
  rw [Owned, Owned, hheld, Ne, Ne, hended]

theorem manager_reclaim (b : Bridge σ) (m m' : Manager) :
    (b.reclaim m).manager m' = b.manager m' := by
  obtain ⟨s, heq⟩ := b.reclaim_eq m
  rw [heq, manager, withScratch, manager]

/-- A scope that handed its region back is at rest, and the others are where they were. -/
theorem atRest_handBack (b : Bridge σ) (m m' : Manager) (h : m' ≠ m → (b.manager m').AtRest) :
    ((b.handBack m).manager m').AtRest := by
  rw [handBack, manager_reclaim, manager_modifyManager]
  split
  · exact (b.manager m).atRest_handBack
  · rename_i hm
    by_cases hne : m' = m
    · rw [manager_of_not_has fun hhas => hm ⟨hne, hne ▸ hhas⟩]
      exact fun _ => Phase.noConfusion
    · exact h hne

theorem held_reclaim (b : Bridge σ) (m : Manager) :
    (b.reclaim m).scratch.held = b.scratch.held := by
  rw [reclaim]
  split <;> rfl

theorem owned_modifyManager (b : Bridge σ) (m : Manager) {f : Manager.State → Manager.State}
    (hf : ∀ s, (f s).phase = s.phase) (m' : Manager) :
    (b.modifyManager m f).Owned m' ↔ b.Owned m' := by
  have hphase : ((b.modifyManager m f).manager m').phase = (b.manager m').phase :=
    b.managers.get_modify_congr f Manager.State.phase m.index m'.index hf
  exact owned_congr rfl (by rw [hphase])

theorem owned_reclaim (b : Bridge σ) (m m' : Manager) :
    (b.reclaim m).Owned m' ↔ b.Owned m' :=
  owned_congr (b.held_reclaim m) (by rw [manager_reclaim])

/-- **A region that has an owner is not freed.** -/
theorem getElem?_reclaim {i : Nat} {slot : Slot} (h : b.scratch.slots[i]? = some slot)
    (howned : b.Owned slot.region) : (b.reclaim m).scratch.slots[i]? = some slot := by
  rw [reclaim]
  split
  · exact h
  · rename_i hm
    have hne : slot.region ≠ m := fun heq => hm (heq ▸ howned)
    refine (List.getElem?_map ..).trans ?_
    rw [h, Option.map_some, Slot.free, if_neg hne]

theorem length_slots_reclaim (b : Bridge σ) (m : Manager) :
    (b.reclaim m).scratch.slots.length = b.scratch.slots.length := by
  rw [reclaim]
  split
  · rfl
  · exact List.length_map _

/-- **What a call comes to that gives up a share in a region.**  It writes nothing, and what has an
owner afterwards is not freed. -/
structure Surrenders (held : List Buffer) (b b' : Bridge σ) : Prop where
  slots : ∀ (i : Nat) (slot : Slot), b.scratch.slots[i]? = some slot → b'.Owned slot.region →
    b'.scratch.slots[i]? = some slot
  length : b'.scratch.slots.length = b.scratch.slots.length
  held : b'.scratch.held = held
  atRest : ∀ m, (b.manager m).AtRest → (b'.manager m).AtRest
  name : ∀ j, (b'.job j).name = (b.job j).name

namespace Surrenders

variable {held : List Buffer}

theorem of_unwritten (h : Unwritten b b') : Surrenders b.scratch.held b b' :=
  ⟨fun _ _ hslot _ => h.scratch ▸ hslot, congrArg (·.slots.length) h.scratch,
    congrArg Scratch.held h.scratch, h.atRest, h.name⟩

/-- An owner of a region is gone. -/
theorem reclaim (b b' : Bridge σ) (hslots : b'.scratch.slots = b.scratch.slots)
    (hjobs : b'.jobs = b.jobs) (hrest : ∀ m, (b.manager m).AtRest → (b'.manager m).AtRest)
    (m : Manager) : Surrenders b'.scratch.held b (b'.reclaim m) := by
  refine ⟨fun i slot hslot howned => ?_, ?_, held_reclaim b' m,
    fun m' hm' => b'.manager_reclaim m m' ▸ hrest m' hm', fun j => ?_⟩
  · exact getElem?_reclaim (hslots ▸ hslot) ((owned_reclaim b' m _).1 howned)
  · rw [length_slots_reclaim, hslots]
  · obtain ⟨s, heq⟩ := b'.reclaim_eq m
    rw [heq, job, withScratch, hjobs, job]

theorem after (h : Unwritten b b') {b'' : Bridge σ} (h' : Surrenders held b' b'') :
    Surrenders held b b'' :=
  ⟨fun i slot hslot => h'.slots i slot (h.scratch ▸ hslot),
    h'.length.trans (congrArg (·.slots.length) h.scratch), h'.held,
    fun m => h'.atRest m ∘ h.atRest m, fun j => (h'.name j).trans (h.name j)⟩

theorem noted (h : Surrenders held b b') (journal : List Event) :
    Surrenders held b { b' with journal } := ⟨h.slots, h.length, h.held, h.atRest, h.name⟩

theorem forsake (h : Surrenders held b b') (m : Manager) :
    Surrenders held b (b'.modifyManager m (·.forsake)) :=
  ⟨fun i slot hslot howned =>
    h.slots i slot hslot ((owned_modifyManager b' m (f := (·.forsake)) (fun _ => rfl) _).1 howned),
    h.length, h.held, fun m' => b'.atRest_modifyManager m (f := (·.forsake)) (fun _ => id) m' ∘
      h.atRest m', h.name⟩

theorem letGo (b : Bridge σ) (buffer : Buffer) :
    Surrenders (b.scratch.held.erase buffer) b (b.letGo buffer) :=
  reclaim b (b.withScratch (b.scratch.letGo buffer)) rfl rfl (fun _ => id) buffer.region

end Surrenders

end Bridge

namespace Manager

theorem releaseAll_total (registry : Registry) (outcome : Teardown) (failures : List Failure) :
    (releaseAll registry outcome failures : Action σ _).Total := by
  induction registry generalizing outcome failures with
  | nil => exact .pure _
  | cons entry rest ih =>
    refine .bind (.read _) fun s => .bind (.attempt _) fun result => ?_
    split
    · exact ih _ _
    · exact ih _ _
    · exact .bind (.remark _) fun _ => ih _ _

/-- **A scope is closed in four parts**: it is shut, nothing is written while its resources are
released, it hands its region back, and then observers are told. -/
theorem close_parts {b : Bridge σ} {m : Manager} (hm : (b.manager m).closed = false) :
    ∃ b₁ journal, Unwritten (b.modifyManager m (·.shut)) b₁ ∧
      (m.close b).2 = { b₁.handBack m with journal } := by
  let released := releaseAll (b.manager m).registry .empty [] (b.modifyManager m (·.shut))
  obtain ⟨result, hresult⟩ :=
    releaseAll_total (b.manager m).registry .empty [] (b.modifyManager m (·.shut))
  have heq : released = (.ok result, released.2) := Prod.ext hresult rfl
  refine ⟨released.2, (m.close b).2.journal, releaseAll_unwritten _ _ _ _, ?_⟩
  rw [close, bind_of_ok (read_apply _ _), if_neg (Bool.eq_false_iff.1 hm),
    bind_of_ok (update_apply _ _), bind_of_ok (clock_apply _), bind_of_ok heq]
  dsimp only
  rw [bind_of_ok (clock_apply _), bind_of_ok (update_apply _ _), bind_of_ok (remark_apply _ _),
    bind_of_ok (remark?_apply _ _)]
  cases Failure.aggregate result.2 with
  | none => exact tell_eq _ _
  | some e => exact tell_eq _ _

theorem drop_of_closed {b : Bridge σ} {m : Manager} (hm : (b.manager m).closed = true) :
    m.drop b = (.ok (), b.modifyManager m (·.forsake)) := by
  rw [drop, bind_of_ok (read_apply _ _), hm]
  rfl

/-- **A wrapper is dropped in two parts**: its scope is closed, and then the wrapper is gone. -/
theorem drop_parts {b : Bridge σ} {m : Manager} (hm : (b.manager m).closed = false) :
    ∃ journal, (m.drop b).2 = { (m.close b).2.modifyManager m (·.forsake) with journal } := by
  rw [drop, bind_of_ok (read_apply _ _), if_neg (Bool.eq_false_iff.1 hm),
    bind_of_ok (attempt_apply _ _)]
  cases (m.close b).1 with
  | error e => exact ⟨_, rfl⟩
  | ok outcome =>
    dsimp only
    split <;> exact ⟨_, rfl⟩

/-- **A scope that was closed is at rest**, and the others are if they were. -/
theorem atRest_close (m m' : Manager) {b : Bridge σ} (h : (b.manager m').AtRest) :
    ((m.close b).2.manager m').AtRest := by
  cases hm : (b.manager m).closed with
  | true => rwa [close_of_closed hm]
  | false =>
    obtain ⟨b₁, journal, hunwritten, heq⟩ := close_parts hm
    rw [heq]
    refine b₁.atRest_handBack m m' fun hne => hunwritten.atRest m' ?_
    rwa [manager_modifyManager, if_neg fun hm' => hne hm'.1]

theorem close_surrenders (m : Manager) (b : Bridge σ) :
    Surrenders b.scratch.held b (m.close b).2 := by
  cases hm : (b.manager m).closed with
  | true =>
    rw [close_of_closed hm]
    exact .of_unwritten (.refl b)
  | false =>
    obtain ⟨b₁, journal, hunwritten, heq⟩ := close_parts hm
    have hback : Surrenders b₁.scratch.held b₁ (b₁.handBack m) :=
      .reclaim b₁ (b₁.modifyManager m (·.handBack)) rfl rfl
        (b₁.atRest_modifyManager m fun s _ => s.atRest_handBack) m
    have hshut : Surrenders b₁.scratch.held (b.modifyManager m (·.shut)) (b₁.handBack m) :=
      hback.after hunwritten
    have hrest (m' : Manager) : (b.manager m').AtRest → ((m.close b).2.manager m').AtRest :=
      m.atRest_close m'
    rw [heq] at hrest ⊢
    rw [show b.scratch = b₁.scratch from hunwritten.scratch.symm]
    exact ⟨hshut.slots, hshut.length, hshut.held, hrest, hshut.name⟩

theorem drop_surrenders (m : Manager) (b : Bridge σ) :
    Surrenders b.scratch.held b (m.drop b).2 := by
  cases hm : (b.manager m).closed with
  | true =>
    rw [drop_of_closed hm]
    exact (Surrenders.of_unwritten (.refl b)).forsake m
  | false =>
    obtain ⟨journal, heq⟩ := drop_parts hm
    rw [heq]
    exact ((m.close_surrenders b).forsake m).noted journal

end Manager

/-! ## Operations -/

namespace Operation

/-- The buffers in somebody's hands after a call that gives up a share. -/
def stillHeld (held : List Buffer) : {α : Type} → Operation σ α → List Buffer
  | _, dropBuffer buffer => held.erase buffer
  | _, _ => held

theorem after_close_manager (m : Manager) (ctx : Option Context) (b : Bridge σ) :
    (close (.manager m) ctx).after b = (m.close b).2 :=
  congrArg Prod.snd (map_apply m.close (fun _ => ()) b)

/-- **A call that gives up a share surrenders no more than that.** -/
theorem surrenders (op : Operation σ α) {m : Manager} (h : op.givesUp? = some m) (b : Bridge σ) :
    Surrenders (op.stillHeld b.scratch.held) b (op.after b) := by
  cases op with
  | closeManager m => exact m.close_surrenders b
  | dropBuffer buffer => exact .letGo b buffer
  | close o ctx =>
    cases o with
    | manager m =>
      rw [after_close_manager]
      exact m.close_surrenders b
    | _ => cases h
  | drop o =>
    cases o with
    | manager m => exact m.drop_surrenders b
    | _ => cases h
  | _ => cases h

/-- **After every call but a write the regions that have an owner are as they were.** -/
theorem keeps_owned (op : Operation σ α) (hwrites : op.written? = none) (b : Bridge σ) {i : Nat}
    {slot : Slot} (hslot : b.scratch.slots[i]? = some slot)
    (howned : (op.after b).Owned slot.region) : (op.after b).scratch.slots[i]? = some slot := by
  cases hshare : op.givesUp? with
  | some m => exact (op.surrenders hshare b).slots i slot hslot howned
  | none =>
    obtain ⟨rest, heq⟩ := (op.retains hwrites hshare b _ List.prefix_rfl).slots
    rw [← heq, List.getElem?_append_left (List.getElem?_eq_some_iff.1 hslot).1]
    exact hslot

/-- **No call leaves a scope half closed.** -/
theorem atRest (op : Operation σ α) (b : Bridge σ) (m : Manager) (h : (b.manager m).AtRest) :
    ((op.after b).manager m).AtRest := by
  cases hwrites : op.written? with
  | some buffer =>
    cases op with
    | write => exact h
    | _ => cases hwrites
  | none =>
    cases hshare : op.givesUp? with
    | some share => exact (op.surrenders hshare b).atRest m h
    | none => exact (op.retains hwrites hshare b [] List.nil_prefix).atRest m h

/-- Nobody lets go of another buffer. -/
theorem stillHeld_suffix (op : Operation σ α) (hwrites : op.written? = none) (b : Bridge σ) :
    op.stillHeld b.scratch.held <:+ (op.after b).scratch.held := by
  cases hshare : op.givesUp? with
  | some m => exact (op.surrenders hshare b).held ▸ List.suffix_rfl
  | none =>
    have hheld := (op.retains hwrites hshare b _ List.prefix_rfl).held
    cases op with
    | dropBuffer => cases hshare
    | _ => exact hheld

theorem length_slots_le (op : Operation σ α) (hwrites : op.written? = none) (b : Bridge σ) :
    b.scratch.slots.length ≤ (op.after b).scratch.slots.length := by
  cases hshare : op.givesUp? with
  | some m => exact Nat.le_of_eq (op.surrenders hshare b).length.symm
  | none => exact (op.retains hwrites hshare b _ List.prefix_rfl).slots.length_le

/-- **The name of a job changes once at most**, from none, and by a call that may look it up. -/
theorem name_eq_or (op : Operation σ α) (b : Bridge σ) (j : Job) :
    ((op.after b).job j).name = (b.job j).name ∨
      (b.job j).name = none ∧ op.named? = some j := by
  cases hwrites : op.written? with
  | some buffer =>
    cases op with
    | write => exact .inl rfl
    | _ => cases hwrites
  | none =>
    cases hshare : op.givesUp? with
    | some m => exact .inl ((op.surrenders hshare b).name j)
    | none =>
      have hretained := op.retains hwrites hshare b [] List.nil_prefix
      by_cases hj : op.named? = some j
      · cases hname : (b.job j).name with
        | none => exact .inr ⟨rfl, hj⟩
        | some name => exact .inl (hretained.remembered j name hname)
      · exact .inl (hretained.name j hj)

end Operation

end HandleBridge
