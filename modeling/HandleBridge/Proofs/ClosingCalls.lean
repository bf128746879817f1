import HandleBridge.Proofs.QuietCalls
import HandleBridge.Proofs.Release

/-!
# Proofs/ClosingCalls — what a call that closes something is made of

Beside quiet changes there are three: an open resource is retired, a scope is shut, and the wrapper
of a shut scope goes.  A relation that is kept by these (`Bridge.Closes`) holds of every call that
closes or drops an object, in whatever order the releases come and however they end.
-/

namespace HandleBridge

open HandleBridge.Action

variable {σ α : Type}

namespace Bridge

/-- **A relation that the changes of closing keep.** -/
structure Closes (R : Bridge σ → Bridge σ → Prop) : Prop where
  quiet : ∀ b b', Quiet b b' → R b b'
  retire : ∀ b r, (b.resource r).closed = false → R b (b.retire r)
  shut : ∀ b m, R b (b.modifyManager m (·.shut))
  forsake : ∀ b m, (b.manager m).closed = true → R b (b.modifyManager m (·.forsake))

end Bridge

namespace Manager

theorem close_of_closed {b : Bridge σ} {m : Manager} (h : (b.manager m).closed = true) :
    m.close b = (.ok .empty, b) := by
  rw [close, bind_of_ok (read_apply _ _), if_pos h]
  rfl

end Manager

namespace Job

/-- The call that closes a job in the native library. -/
def closing (b : Bridge σ) (j : Job) (ctx : Option Context) : Action σ Unit :=
  (b.job j).resource.withHandle fun h => callNative ctx .jobClose fun c =>
    invoke .jobClose (some h) ((b.job j).library.entry.jobClose c (some h))

theorem quiet_closing (b : Bridge σ) (j : Job) (ctx : Option Context) :
    (closing b j ctx).Ensures Quiet :=
  .withHandle _ fun _ => .callNative ctx _ fun _ => .invoke _ _ _

/-- A job that is closed already is closed neither in the library nor here. -/
theorem close_of_closed {b : Bridge σ} {j : Job}
    (h : (b.resource (b.job j).resource).closed = true) (ctx : Option Context) :
    j.close ctx b = (.ok (), b) := by
  rw [close, bind_of_ok (read_apply _ _), bind_of_ok (read_apply _ _), if_pos h]
  rfl

/-- **An open job is closed in the library and then released**, whatever the library said.  The
library's failure comes before the release's. -/
theorem close_eq_of_open {b : Bridge σ} {j : Job}
    (hopen : (b.resource (b.job j).resource).closed = false) (ctx : Option Context) :
    let released := (b.job j).resource.close (closing b j ctx b).2
    j.close ctx b = ((closing b j ctx b).1 >>= fun _ => released.1, released.2) := by
  rw [close, bind_of_ok (read_apply _ _), bind_of_ok (read_apply _ _),
    if_neg (Bool.eq_false_iff.1 hopen)]
  refine (bind_of_ok (attempt_apply (closing b j ctx) b)).trans ?_
  rw [bind_of_ok (attempt_apply _ _)]
  rcases (closing b j ctx b).1 with failure | _ <;> rfl

/-- A job whose release does not fail says what the library said. -/
theorem close_of_open {b : Bridge σ} {j : Job}
    (hopen : (b.resource (b.job j).resource).closed = false)
    (hfailure : (b.resource (b.job j).resource).releaser.failure = none) (ctx : Option Context) :
    let r := (b.job j).resource
    let b₁ := (closing b j ctx b).2
    j.close ctx b =
      ((closing b j ctx b).1, (b₁.retire r).note (.remarked (Resource.releasedRemark b₁ r))) := by
  intro r b₁
  have hresource : b₁.resource r = b.resource r := (quiet_closing b j ctx b).resource r
  have hrelease := Resource.close_of_open (hresource ▸ hopen) (hresource ▸ hfailure)
  rw [close_eq_of_open hopen ctx, hrelease]
  rcases (closing b j ctx b).1 with failure | _ <;> rfl

end Job

namespace Bridge.Closes

variable {R : Bridge σ → Bridge σ → Prop}

theorem calls (hR : Closes R) {x : Action σ α} (hx : x.Ensures Quiet) : x.Ensures R :=
  hx.mono hR.quiet

theorem remark (hR : Closes R) (r : Remark) : (Action.remark r : Action σ Unit).Ensures R :=
  hR.calls (.remark r)

variable [IsPreorder (Bridge σ) R]

/-! ## Resources -/

theorem release (hR : Closes R) (r : Resource) : (r.release : Action σ Bool).Ensures R := by
  intro b
  cases hopen : (b.resource r).closed with
  | true =>
    rw [Resource.release_of_closed hopen]
    exact Std.Refl.refl b
  | false =>
    rw [Resource.release_of_open hopen]
    exact IsTrans.trans _ _ _ (hR.retire b r hopen) (hR.quiet _ _ (Quiet.remarked _ _))

theorem close (hR : Closes R) (r : Resource) : (r.close : Action σ Unit).Ensures R :=
  .bind (hR.release r) fun _ => .pure _

theorem drop (hR : Closes R) (r : Resource) : (r.drop : Action σ Unit).Ensures R := by
  refine .bind (.read _) fun s => .bind (hR.release r).attempt fun result => ?_
  split
  · exact hR.remark _
  · exact .pure _
  · exact hR.remark _

/-! ## Managers -/

theorem releaseAll (hR : Closes R) (registry : Registry) (outcome : Teardown)
    (failures : List Failure) :
    (Manager.releaseAll registry outcome failures : Action σ _).Ensures R := by
  induction registry generalizing outcome failures with
  | nil => exact .pure _
  | cons entry rest ih =>
    refine .bind (.read _) fun s => .bind (hR.release entry.2).attempt fun result => ?_
    split
    · exact ih _ _
    · exact ih _ _
    · exact .bind (hR.remark _) fun _ => ih _ _

/-- A scope is shut before anything in it is released. -/
theorem closeShut (hR : Closes R) {b : Bridge σ} {m : Manager} (hm : (b.manager m).closed = false) :
    R (b.modifyManager m (·.shut)) (m.close b).2 := by
  rw [Manager.close, bind_of_ok (read_apply _ _), if_neg (Bool.eq_false_iff.1 hm),
    bind_of_ok (update_apply _ _)]
  refine Ensures.bind (hR.calls .clock) (fun _ => .bind (hR.releaseAll _ _ _) fun _ => ?_) _
  refine .bind (hR.calls .clock) fun _ => .bind (hR.calls (Quiet.handBack · m)) fun _ => ?_
  refine .bind (hR.remark _) fun _ => .bind (hR.calls (.remark? _)) fun _ => ?_
  exact .bind (.ofFailure _) fun _ => .pure _

theorem closeManager (hR : Closes R) (m : Manager) : (m.close : Action σ Teardown).Ensures R := by
  intro b
  cases hm : (b.manager m).closed with
  | true =>
    rw [Manager.close_of_closed hm]
    exact Std.Refl.refl b
  | false => exact IsTrans.trans _ _ _ (hR.shut b m) (hR.closeShut hm)

end Bridge.Closes

namespace Bridge

/-- Does a manager that is closed stay so? -/
def StaysShut (m : Manager) (b b' : Bridge σ) : Prop :=
  (b.manager m).closed = true → (b'.manager m).closed = true

instance (m : Manager) : IsPreorder (Bridge σ) (StaysShut m) where
  refl _ := id
  trans _ _ _ h h' := h' ∘ h

theorem StaysShut.modifyManager (b : Bridge σ) (m m' : Manager) {f : Manager.State → Manager.State}
    (hf : ∀ s, s.closed = true → (f s).closed = true) : StaysShut m b (b.modifyManager m' f) := by
  intro hm
  rw [manager_modifyManager]
  split
  · rename_i heq
    exact hf _ (heq.1 ▸ hm)
  · exact hm

theorem StaysShut.closes (m : Manager) : Closes (StaysShut m : Bridge σ → Bridge σ → Prop) where
  quiet _ _ h hm := (h.closed m).trans hm
  retire b r _ := modifyManager (b.settle r) m _ fun _ => id
  shut b m' := modifyManager b m m' fun s _ => s.closed_shut
  forsake b m' _ := modifyManager b m m' fun _ => id

/-- A manager is closed once it was asked to. -/
theorem closed_close (b : Bridge σ) (m : Manager) : ((m.close b).2.manager m).closed = true := by
  cases hm : (b.manager m).closed with
  | true => rwa [Manager.close_of_closed hm]
  | false =>
    refine (StaysShut.closes m).closeShut hm ?_
    rw [manager_modifyManager, if_pos ⟨rfl, has_of_manager_open hm⟩]
    exact Manager.State.closed_shut _

namespace Closes

variable {R : Bridge σ → Bridge σ → Prop} [IsPreorder (Bridge σ) R]

theorem dropManager (hR : Closes R) (m : Manager) : (m.drop : Action σ Unit).Ensures R := by
  intro b
  rw [Manager.drop, bind_of_ok (read_apply _ _)]
  split
  · rename_i hm
    exact hR.forsake b m hm
  · have hm := b.closed_close m
    have hclose := hR.closeManager m b
    have hremarked (r : Remark) :
        R b (((m.close b).2.note (.remarked r)).modifyManager m (·.forsake)) :=
      IsTrans.trans _ _ _ hclose <| IsTrans.trans _ _ _ (hR.quiet _ _ (Quiet.remarked _ r))
        (hR.forsake _ m hm)
    rw [bind_of_ok (attempt_apply _ _)]
    rcases (m.close b).1 with e | outcome
    · exact hremarked _
    · dsimp only
      split
      · exact hremarked _
      · exact IsTrans.trans _ _ _ hclose (hR.forsake _ m hm)

/-! ## Objects of any sort -/

theorem closeJob (hR : Closes R) (j : Job) (ctx : Option Context) :
    (j.close ctx : Action σ Unit).Ensures R := by
  refine .bind (.read _) fun s => .bind (.read _) fun resource => ?_
  split
  · exact .pure _
  · refine .bind (.attempt (hR.calls (.withHandle _ fun h => ?_))) fun closed => ?_
    · exact .callNative ctx _ fun c => .invoke _ _ _
    · exact .bind (hR.close _).attempt fun _ => .bind (.ofExcept _) fun _ => .ofExcept _

theorem closeObject (hR : Closes R) (ctx : Option Context) (o : Object) :
    (Operation.closeObject ctx o : Action σ Unit).Ensures R := by
  cases o with
  | manager m => exact Ensures.map (x := m.close) (hR.closeManager m)
  | resource r => exact hR.close r
  | context c => exact .bind (.read _) fun r => hR.close r
  | job j => exact hR.closeJob j ctx
  | cancellation c => exact .bind (.read _) fun r => hR.close r

theorem dropObject (hR : Closes R) (o : Object) :
    (Operation.dropObject o : Action σ Unit).Ensures R := by
  cases o with
  | manager m => exact hR.dropManager m
  | resource r => exact hR.drop r
  | context c => exact .bind (.read _) fun r => hR.drop r
  | job j => exact .bind (.read _) fun r => hR.drop r
  | cancellation c => exact .bind (.read _) fun r => hR.drop r

end Closes

end Bridge

end HandleBridge
