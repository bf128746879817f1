import HandleBridge.Proofs.SimulatedJob
import HandleBridge.Proofs.Walks

/-!
# Proofs/Routine — relations of machines that every call respects

What a relation of machines says of the native library's moves, of what happens outside and of
releases, it says of every walk (`Walk.conserves`).  The simulated library's moves are put together
from a few changes: the clock goes on, a report is left with a context, the job that a call is about
changes but for its blueprint, an object is made, a disposal is counted.  A relation that respects
these is `Routine`, and holds of every entry point but the logger's (`Routine.moves`).
-/

namespace HandleBridge

open HandleBridge.Action Bridge Simulation

variable {α : Type}

/-! ## Walks -/

section Walks

variable {σ : Type}

/-- **Do terms conserve a relation of machines?**  It holds of what the library does, of what
happens outside and of every release. -/
structure Terms.Conserves (T : Terms σ) (R : Machine σ → Machine σ → Prop) : Prop where
  moves : ∀ {symbol m m'}, T.moves symbol m m' → R m m'
  outside : ∀ {m m'}, T.outside m m' → R m m'
  releases : ∀ {kind releaser}, T.Releases kind releaser → ∀ h m, R m (releaser.run h m)

variable {T : Terms σ} {R : Machine σ → Machine σ → Prop} [IsPreorder (Machine σ) R]
  (hT : T.Conserves R) {b b' : Bridge σ}

include hT

theorem Step.conserves (h : Step T b b') (hs : b.Served T) : R b.machine b'.machine := by
  cases h with
  | still quiet machine =>
    rw [machine]
    exact Std.Refl.refl _
  | call h => exact hT.moves h
  | outside h => exact hT.outside h
  | @reject m hm handle kind releaser hr =>
    have hmachine : (b.reject m handle kind releaser).machine = releaser.run handle b.machine := by
      change ((b.enroll m handle kind releaser).resource b.next).releaser.run
        ((b.enroll m handle kind releaser).resource b.next).handle b.machine = _
      rw [resource_enroll_next]
    exact hmachine ▸ hT.releases hr handle b.machine
  | @retire r hr =>
    have hreleases : T.Releases _ _ := hs (.resource r) (has_of_open hr)
    exact hT.releases hreleases (b.resource r).handle b.machine
  | letGo buffer =>
    rw [Bridge.letGo, machine_reclaim]
    exact Std.Refl.refl b.machine
  | handBack m =>
    rw [Bridge.handBack, machine_reclaim]
    exact Std.Refl.refl b.machine
  | _ => exact Std.Refl.refl b.machine

/-- **What terms conserve is conserved along a walk.** -/
theorem Walk.conserves (h : Walk T b b') (hs : b.Served T) : R b.machine b'.machine := by
  induction h with
  | refl => exact Std.Refl.refl _
  | tail hwalk hstep ih => exact IsTrans.trans _ _ _ ih (hstep.conserves hT (Walk.served hwalk hs))

end Walks

/-! ## The simulated library -/

/-- The logger changes its settings and its file, and nothing else. -/
theorem Simulation.loggerInit_native (append : Appending) (filters file : StringOut)
    (m : Machine Simulation) : ∃ logger files,
      (loggerInit append filters file m).2 =
        { m with native := { m.native with logger, files } } := by
  unfold loggerInit
  split
  · exact ⟨_, _, rfl⟩
  · exact ⟨_, _, rfl⟩
  · split
    · exact ⟨_, _, rfl⟩
    · split <;> exact ⟨_, _, rfl⟩

/-- **Does a relation respect the changes that entry points are made of**, when the contexts that
they are given are of a sort? -/
structure Machine.Routine (given : Option Handle → Prop)
    (R : Machine Simulation → Machine Simulation → Prop) : Prop where
  clock : ∀ m clock, R m { m with clock }
  report : ∀ m {c}, given c → ∀ latest, R m { m with native := m.native.report c latest }
  setJob : ∀ {m h j}, m.native.job? (some h) = some j → ∀ {j' : Simulation.Job}, j'.spec = j.spec →
    R m { m with native := m.native.setJob h j' }
  newContext : ∀ m, R m { m with native := (m.native.newContext none).2 }
  newCancelJob : ∀ m k, R m { m with native := (m.native.newCancelJob k).2 }
  newValue : ∀ m v, R m { m with native := (m.native.newValue v).2 }
  count : ∀ m probe, R m { m with native := m.native.count probe }

namespace Machine.Routine

variable {given : Option Handle → Prop} {R : Machine Simulation → Machine Simulation → Prop}
  {m : Machine Simulation} {c target : Option Handle} {h : Handle} {j : Simulation.Job}
  (hR : Routine given R)

include hR

/-! ### Checks -/

section Checks

variable (hc : given c)

include hc

theorem accept (written : α) (m : Machine Simulation) : R m (accept c written m).2 :=
  hR.report m hc none

theorem refuse (r : Report) (written : α) (m : Machine Simulation) :
    R m (refuse c r written m).2 := hR.report m hc (some r)

theorem needing (out : Bool) (position : Nat) (nothing : α) {f : Call Simulation α}
    (hf : R m (f m).2) : R m (needing out position c nothing f m).2 := by
  cases out with
  | true => exact hf
  | false => exact hR.refuse hc _ nothing m

/-- A call on the job behind a handle. -/
theorem onJob (nothing : α) {f : Handle → Simulation.Job → Call Simulation α}
    (hf : ∀ h j, m.native.job? (some h) = some j → R m (f h j m).2) :
    R m (onJob c target nothing f m).2 := by
  unfold Simulation.onJob
  split
  · rename_i h j hj
    exact hf h j hj
  · exact hR.refuse hc _ nothing m

theorem onOpenJob (symbol : Symbol) (position : Nat) (out : Bool) (nothing : α)
    {f : Handle → Simulation.Job → Call Simulation α}
    (hf : ∀ h j, m.native.job? (some h) = some j → R m (f h j m).2) :
    R m (onOpenJob symbol position c target out nothing f m).2 := by
  refine hR.onJob hc nothing fun h j hj => hR.needing hc out position nothing ?_
  split
  · exact hR.refuse hc _ nothing m
  · exact hf h j hj

/-- A call on the cancel job behind a handle. -/
theorem onCancelJob (position : Nat) (out : Bool)
    {f : CancelJob → Call Simulation (Option Bool)} (hf : ∀ k, R m (f k m).2) :
    R m (onCancelJob position c target out f m).2 := by
  unfold Simulation.onCancelJob
  split
  · exact hR.needing hc out position none (hf _)
  · exact hR.refuse hc _ none m

end Checks

variable [IsPreorder (Machine Simulation) R]

/-! ### Disposals -/

theorem contextDispose (c : Option Handle) (m : Machine Simulation) :
    R m (contextDispose c m) := by
  unfold Simulation.contextDispose
  split
  · exact hR.count m _
  · exact Std.Refl.refl m

theorem jobDispose (target : Option Handle) (m : Machine Simulation) :
    R m (jobDispose target m) := by
  unfold Simulation.jobDispose
  split
  · exact hR.count m _
  · exact Std.Refl.refl m

theorem cancelJobDispose (target : Option Handle) (m : Machine Simulation) :
    R m (cancelJobDispose target m) := by
  unfold Simulation.cancelJobDispose
  split
  · exact hR.count m _
  · exact Std.Refl.refl m

/-- The releases of the library's objects, and of values that are disposed of accordingly. -/
theorem releases {T : Terms Simulation} (hlibrary : ∀ l, T.library l → l = library)
    (hdispose : ∀ f, T.dispose f → ∀ h m, R m (f h m)) {kind : Kind}
    {releaser : Releaser Simulation} (hr : T.Releases kind releaser) (h : Handle)
    (m : Machine Simulation) : R m (releaser.run h m) := by
  cases hr with
  | scripted kind pause failure => exact hR.clock m _
  | context hl =>
    obtain rfl := hlibrary _ hl
    exact hR.contextDispose (some h) m
  | job hl =>
    obtain rfl := hlibrary _ hl
    exact hR.jobDispose (some h) m
  | cancellation hl =>
    obtain rfl := hlibrary _ hl
    exact hR.cancelJobDispose (some h) m
  | value hf kind failure => exact hdispose _ hf h m

/-! ### Entry points -/

theorem contextCreate (out : Bool) (m : Machine Simulation) : R m (contextCreate out m).2 := by
  cases out with
  | true => exact hR.newContext m
  | false => exact Std.Refl.refl m

/-- A call that waits first. -/
theorem waiting (due limit : Option Nat) {f : Bool → Call Simulation α}
    (hf : ∀ came clock, R { m with clock } (f came { m with clock }).2) :
    R m (waiting due limit f m).2 :=
  IsTrans.trans _ _ _ (hR.clock m (await due limit m.clock).2) (hf _ _)

section Calls

variable (hc : given c)

include hc

/-- What comes to the completion of a job. -/
theorem consume (hj : m.native.job? (some h) = some j) : R m (consume c h j m).2 := by
  let m₁ : Machine Simulation := { m with native := m.native.setJob h { j with taken := true } }
  have hset : R m m₁ := hR.setJob hj rfl
  unfold Simulation.consume
  split
  · exact hR.refuse hc _ none m
  dsimp only
  split
  · exact IsTrans.trans _ _ _ hset (hR.refuse hc _ (none : Option Handle) m₁)
  · split
    · rename_i payload _
      let m₂ : Machine Simulation :=
        { m₁ with native := (m₁.native.newValue ⟨payload, j.spec.valueProbe⟩).2 }
      exact IsTrans.trans _ m₁ _ hset (IsTrans.trans _ m₂ _ (hR.newValue m₁ _)
        (hR.accept hc (none : Option Handle) m₂))
    · exact IsTrans.trans _ _ _ hset (hR.accept hc (none : Option Handle) m₁)
    · exact IsTrans.trans _ _ _ hset (hR.refuse hc _ (none : Option Handle) m₁)

theorem cancelling (limit : Option Nat) (hj : m.native.job? (some h) = some j) :
    R m (cancelling c limit h j m).2 :=
  IsTrans.trans _ _ _
    (hR.setJob hj (Simulation.Job.Follows.cancelUnlessDone m.clock j).spec)
    (hR.waiting _ limit fun came _ => hR.accept hc (some came) _)

theorem jobTake (out : Bool) : R m (jobTake c target out m).2 := by
  refine hR.onOpenJob hc _ _ out none fun h j hj => ?_
  rcases j.due with _ | due
  · exact hR.refuse hc _ none m
  · exact hR.waiting (some due) none fun _ _ => hR.consume hc hj

theorem jobTakeFor (limit : Nat) (out : Bool) : R m (jobTakeFor c target limit out m).2 := by
  refine hR.onOpenJob hc _ _ out none fun h j hj => hR.waiting _ _ fun came _ => ?_
  split
  · exact hR.consume hc hj
  · exact hR.refuse hc _ none _

theorem jobTakeIfReady (readyOut valueOut : Bool) :
    R m (jobTakeIfReady c target readyOut valueOut m).2 := by
  refine hR.onJob hc _ fun h j hj => hR.needing hc _ _ _ (hR.needing hc _ _ _ ?_)
  split
  · exact hR.refuse hc _ _ m
  · dsimp only
    split
    · exact hR.consume hc hj
    · exact hR.accept hc _ m

theorem jobCancelAsync (out : Bool) : R m (jobCancelAsync c target out m).2 := by
  refine hR.onOpenJob hc _ _ out none fun h j hj => ?_
  dsimp only
  split
  · exact hR.accept hc none m
  · let doneAt := m.clock + j.spec.cancelLatency
    let m₁ : Machine Simulation :=
      { m with native := m.native.setJob h { j with cancelAt := some doneAt } }
    let m₂ : Machine Simulation :=
      { m₁ with native := (m₁.native.newCancelJob ⟨doneAt, j.spec.cancelProbe⟩).2 }
    exact IsTrans.trans _ m₁ _ (hR.setJob hj rfl) (IsTrans.trans _ m₂ _ (hR.newCancelJob m₁ _)
      (hR.accept hc (none : Option Handle) m₂))

theorem jobClose : R m (jobClose c target m).2 :=
  hR.onJob hc () fun h j hj =>
    let m₁ : Machine Simulation := { m with native := m.native.setJob h { j with closed := true } }
    IsTrans.trans _ m₁ _ (hR.setJob hj rfl) (hR.accept hc () m₁)

end Calls

/-- **Every entry point respects what is routine**, the logger's apart. -/
theorem moves {M : Symbol → Machine Simulation → Machine Simulation → Prop}
    (hM : ∀ {symbol}, symbol ≠ .loggerInit → ∀ {m m'}, R m m' → M symbol m m')
    (append : Appending)
    (hlogger : ∀ filters file m, M .loggerInit m (loggerInit append filters file m).2) :
    (entryPoints append).Moves given M := by
  have hread {symbol : Symbol} (hsymbol : symbol ≠ .loggerInit) {m m' : Machine Simulation}
      (heq : m' = m) : M symbol m m' := by
    rw [heq]
    exact hM hsymbol (Std.Refl.refl m)
  exact {
    contextCreate := fun out m => hM (by decide) (hR.contextCreate out m)
    contextReturnCode := fun c out m => hread (by decide) (observe_snd c out m _)
    contextErrorName := fun c out m => hread (by decide) (observeText_snd c out m _)
    contextErrorType := fun c out m => hread (by decide) (observe_snd c out m _)
    contextErrorMessage := fun c out m => hread (by decide) (observeText_snd c out m _)
    contextCategoryNumber := fun c out m => hread (by decide) (observe_snd c out m _)
    contextCategoryText := fun c out m => hread (by decide) (observeText_snd c out m _)
    contextCodeNumber := fun c out m => hread (by decide) (observe_snd c out m _)
    contextStructuredCode := fun c out m => hread (by decide) (observeText_snd c out m _)
    cancelJobWait := fun c hc _ limit out _ => hM (by decide) <| hR.onCancelJob hc _ out
      fun _ => hR.waiting _ _ fun came _ => hR.accept hc (some came) _
    cancelJobIsDone := fun c hc _ out m => hM (by decide) <| hR.onCancelJob hc _ out
      fun k => hR.accept hc (some (decide (k.doneAt ≤ m.clock))) m
    jobName := fun c hc _ out m => hM (by decide) <| hR.onJob hc none
      fun _ _ _ => hR.needing hc out 2 none (hR.accept hc _ m)
    jobWait := fun c hc _ limit out _ => hM (by decide) <| hR.onOpenJob hc _ _ out none
      fun _ _ _ => hR.waiting _ _ fun came _ => hR.accept hc (some came) _
    jobIsDone := fun c hc _ out m => hM (by decide) <| hR.onOpenJob hc _ _ out none
      fun _ j _ => hR.accept hc (some (j.isDone m.clock)) m
    jobTake := fun c hc _ out _ => hM (by decide) (hR.jobTake hc out)
    jobTakeFor := fun c hc _ limit out _ => hM (by decide) (hR.jobTakeFor hc limit out)
    jobTakeIfReady := fun c hc _ out valueOut _ =>
      hM (by decide) (hR.jobTakeIfReady hc out valueOut)
    jobCancel := fun c hc _ out _ => hM (by decide) <| hR.onOpenJob hc _ _ out none
      fun _ _ hj => hR.cancelling hc none hj
    jobCancelFor := fun c hc _ limit out _ => hM (by decide) <| hR.onOpenJob hc _ _ out none
      fun _ _ hj => hR.cancelling hc (some limit) hj
    jobCancelAsync := fun c hc _ out _ => hM (by decide) (hR.jobCancelAsync hc out)
    jobClose := fun c hc _ _ => hM (by decide) (hR.jobClose hc)
    loggerInit := hlogger }

end Machine.Routine

end HandleBridge
