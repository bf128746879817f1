import HandleBridge.Proofs.ClosingCalls
import HandleBridge.Proofs.Registration
import HandleBridge.Proofs.Steps

/-!
# Proofs/Surfacing — where the failure of a release shows

A release that fails is noted in the journal like any other.  Whoever closes a resource is handed
the failure; a drop, a teardown and an adoption that comes too late have nobody to hand it to, or
not yet, and warn of it.  `Bridge.Surfaces` keeps the two lists side by side, the releases that
failed and the warnings of failed releases.
-/

namespace HandleBridge

open HandleBridge.Action

variable {σ α β : Type}

/-! ## What the journal says about failed releases -/

namespace Remark

/-- The failed release that a remark tells of: the kind of what was released, and the failure. -/
def releaseFailure? : Remark → Option (Kind × Failure)
  | unregisteredReleaseFailed kind failure | releaseOnDropFailed _ kind failure
  | stragglerReleaseFailed _ kind failure => some (kind, failure)
  | _ => none

/-- The failed teardown that a remark tells of. -/
def teardownFailure? : Remark → Option Failure
  | managerDropFailed failure => some failure
  | _ => none

end Remark

namespace Event

/-- The failed release that an event warns of. -/
def warning? : Event → Option (Kind × Failure)
  | remarked r => if r.level = .warn then r.releaseFailure? else none
  | _ => none

/-- The failed teardown that an event warns of. -/
def summary? : Event → Option Failure
  | remarked r => if r.level = .warn then r.teardownFailure? else none
  | _ => none

/-- A remark that is not of a release warns of none. -/
theorem not_warning {r : Remark} (h : r.ofRelease = false) :
    (remarked r).warning? = none ∧ (remarked r).summary? = none := by
  cases r <;> first | exact ⟨rfl, rfl⟩ | exact Bool.noConfusion h

end Event

namespace Bridge

/-- The releases that failed so far, in order. -/
def failures (b : Bridge σ) : List (Resource × Failure) :=
  b.releases.filterMap fun release => release.2.2.map (release.1, ·)

/-- The failed releases that were warned of so far, in order. -/
def warnings (b : Bridge σ) : List (Kind × Failure) := b.journal.filterMap Event.warning?

/-- The failed teardowns that were warned of so far, in order. -/
def summaries (b : Bridge σ) : List Failure := b.journal.filterMap Event.summary?

/-- What a warning says about failed releases. -/
def told (b : Bridge σ) (failing : List (Resource × Failure)) : List (Kind × Failure) :=
  failing.map fun f => ((b.resource f.1).kind, f.2)

/-- Is the resource closed, and was its release bound to fail so? -/
def Failed (b : Bridge σ) (f : Resource × Failure) : Prop :=
  b.Has (.resource f.1) ∧ (b.resource f.1).closed = true ∧
    (b.resource f.1).releaser.failure = some f.2

/-- What failed stays closed, for the same reason. -/
theorem Failed.endures {b b' : Bridge σ} {f : Resource × Failure} (h : b.Failed f)
    (h' : Endures b b') : b'.Failed f := by
  obtain ⟨hhas, hclosed, hfailure⟩ := h
  refine ⟨h'.has _ hhas, h'.closed_resource hhas hclosed, ?_⟩
  rcases h'.kept f.1 hhas with heq | heq <;> rw [heq] <;> exact hfailure

/-- **Which releases failed, and what was warned of.**  The journal and the resources show the same
failures. -/
structure Surfaces (failing : List (Resource × Failure)) (warned : List (Kind × Failure))
    (summed : List Failure) (b b' : Bridge σ) : Prop extends Remains b b' where
  failures : b'.failures = b.failures ++ failing
  warnings : b'.warnings = b.warnings ++ warned
  summaries : b'.summaries = b.summaries ++ summed
  failed : ∀ f, b'.Failed f ↔ b.Failed f ∨ f ∈ failing

namespace Surfaces

variable {b b' b'' : Bridge σ} {failing failing' : List (Resource × Failure)}
  {warned warned' : List (Kind × Failure)} {summed summed' : List Failure}

theorem trans (h : Surfaces failing warned summed b b')
    (h' : Surfaces failing' warned' summed' b' b'') :
    Surfaces (failing ++ failing') (warned ++ warned') (summed ++ summed') b b'' where
  toRemains := h.toRemains.trans h'.toRemains
  failures := by rw [h'.failures, h.failures, List.append_assoc]
  warnings := by rw [h'.warnings, h.warnings, List.append_assoc]
  summaries := by rw [h'.summaries, h.summaries, List.append_assoc]
  failed f := by rw [h'.failed, h.failed, List.mem_append, or_assoc]

theorem failed_of_mem (h : Surfaces failing warned summed b b') {f : Resource × Failure}
    (hf : f ∈ failing) : b'.Failed f := (h.failed f).2 (.inr hf)

/-- What was told stays true, since kinds do not change. -/
theorem told_eq (h : Surfaces failing warned summed b b') (h' : Remains b' b'') :
    b''.told failing = b'.told failing :=
  List.map_congr_left fun f hf => congrArg (·, f.2) (h'.kind (h.failed_of_mem hf).1)

/-- A change that the journal does not show, and that closes nothing. -/
theorem unnoted (h : Remains b b') (hjournal : b'.journal = b.journal)
    (hfailed : ∀ f, b'.Failed f → b.Failed f) : Surfaces [] [] [] b b' where
  toRemains := h
  failures := by simp only [Bridge.failures, releases, hjournal, List.append_nil]
  warnings := by simp only [Bridge.warnings, hjournal, List.append_nil]
  summaries := by simp only [Bridge.summaries, hjournal, List.append_nil]
  failed f := by
    rw [or_iff_left List.not_mem_nil]
    exact ⟨hfailed f, fun hf => hf.endures h.toEndures⟩

/-- An event that is no release may be a warning. -/
theorem note (b : Bridge σ) {e : Event} (h : e.release? = none) :
    Surfaces [] e.warning?.toList e.summary?.toList b (b.note e) where
  toRemains := { Remains.refl b with }
  failures := by simp [Bridge.failures, releases, Bridge.note, h]
  warnings := by
    rw [Bridge.warnings, Bridge.note, List.filterMap_append, Bridge.warnings]
    cases h : e.warning? <;> simp [h]
  summaries := by
    rw [Bridge.summaries, Bridge.note, List.filterMap_append, Bridge.summaries]
    cases h : e.summary? <;> simp [h]
  failed _ := (or_iff_left List.not_mem_nil).symm

/-- A remark that is not of a release. -/
theorem remarked (b : Bridge σ) {r : Remark} (h : r.ofRelease = false) :
    Surfaces [] [] [] b (b.note (.remarked r)) := by
  have hnote := note b (e := .remarked r) rfl
  rwa [(Event.not_warning h).1, (Event.not_warning h).2] at hnote

/-- A release fails or does not, and nothing is said about it so far. -/
theorem settle (b : Bridge σ) {r : Resource} (hr : b.Has (.resource r)) :
    Surfaces ((b.resource r).releaser.failure.map (r, ·)).toList [] [] b (b.settle r) where
  toRemains := .settle b r
  failures := by
    rw [Bridge.failures, releases_settle, List.filterMap_append, Bridge.failures]
    cases (b.resource r).releaser.failure <;> rfl
  warnings := by
    simp only [Bridge.warnings, Bridge.settle, farewell, List.filterMap_append]
    cases (b.resource r).releaser.symbol <;> rfl
  summaries := by
    simp only [Bridge.summaries, Bridge.settle, farewell, List.filterMap_append]
    cases (b.resource r).releaser.symbol <;> rfl
  failed f := by
    obtain ⟨r', e⟩ := f
    have hmem : (r', e) ∈ ((b.resource r).releaser.failure.map (r, ·)).toList ↔
        r' = r ∧ (b.resource r).releaser.failure = some e := by
      simp only [Option.mem_toList, Option.map_eq_some_iff, Prod.mk.injEq]
      constructor
      · rintro ⟨_, hf, rfl, rfl⟩
        exact ⟨rfl, hf⟩
      · rintro ⟨rfl, hf⟩
        exact ⟨e, hf, rfl, rfl⟩
    rw [hmem, Failed, resource_settle, has_settle]
    by_cases hr' : r' = r
    · subst hr'
      rw [if_pos rfl]
      exact ⟨fun h => .inr ⟨rfl, h.2.2⟩, fun h => ⟨hr, rfl, h.elim (·.2.2) (·.2)⟩⟩
    · rw [if_neg hr', or_iff_left fun h => hr' h.1]
      rfl

theorem retire (b : Bridge σ) {r : Resource} (hr : b.Has (.resource r)) :
    Surfaces ((b.resource r).releaser.failure.map (r, ·)).toList [] [] b (b.retire r) := by
  have hwithdraw := unnoted
    (Remains.modifyManager (b.settle r) (b.resource r).manager
      (f := (·.withdraw (b.resource r).id)) fun _ => id) rfl fun _ => id
  have hretire := (settle b hr).trans hwithdraw
  rwa [List.append_nil] at hretire

end Surfaces

/-- **No release failed, and nothing was warned of.** -/
def Calm : Bridge σ → Bridge σ → Prop := Surfaces [] [] []

instance : IsPreorder (Bridge σ) Calm where
  refl b := .unnoted (.refl b) rfl fun _ => id
  trans _ _ _ h h' := h.trans h'

/-- Nobody who only asks releases anything. -/
theorem Calm.asking : Asking (Calm : Bridge σ → Bridge σ → Prop) where
  machine b m := .unnoted (.quiet (.withMachine b m)) rfl fun _ => id
  called b symbol target := .note b (e := .called symbol target) rfl
  remarked b _ h := .remarked b h
  scratch b s := .unnoted (.quiet (.withScratch b s)) rfl fun _ => id
  charge b m cells := .unnoted (.quiet (.charge b m cells)) rfl fun _ => id
  remember b j name := .unnoted (.quiet (.remember b j name)) rfl fun _ => id
  process b f := .unnoted (.quiet (.modifyProcess b f)) rfl fun _ => id

/-- **Exactly the releases that failed were warned of.** -/
def Warns (failing : List (Resource × Failure)) (b b' : Bridge σ) : Prop :=
  Surfaces failing (b'.told failing) [] b b'

/-- Was every release that failed warned of, and no other? -/
def Warned (b b' : Bridge σ) : Prop := ∃ failing, Warns failing b b'

namespace Warns

variable {b b' b'' : Bridge σ} {failing failing' : List (Resource × Failure)}

theorem trans (h : Warns failing b b') (h' : Warns failing' b' b'') :
    Warns (failing ++ failing') b b'' := by
  have hboth := Surfaces.trans h h'
  rwa [← h.told_eq h'.toRemains, told, told, ← List.map_append] at hboth

theorem after (h : Calm b b') (h' : Warns failing b' b'') : Warns failing b b'' :=
  Warns.trans (show Warns [] b b' from h) h'

/-- Nothing fails any more, but the failures may be summed up. -/
theorem summed (h : Warns failing b b') {summed : List Failure}
    (h' : Surfaces [] [] summed b' b'') : Surfaces failing (b''.told failing) summed b b'' := by
  have hboth := Surfaces.trans h h'
  rwa [List.append_nil, List.append_nil, List.nil_append, ← h.told_eq h'.toRemains] at hboth

theorem before (h : Warns failing b b') (h' : Calm b' b'') : Warns failing b b'' := h.summed h'

/-- A failure that was not warned of, and then the warning. -/
theorem of_remark (h : Surfaces failing [] [] b b') {r : Remark}
    (hwarns : (Event.remarked r).warning?.toList = b'.told failing)
    (hsums : (Event.remarked r).summary? = none) : Warns failing b (b'.note (.remarked r)) := by
  have hnote := Surfaces.note b' (e := .remarked r) rfl
  rw [hwarns, hsums] at hnote
  have hboth := h.trans hnote
  rwa [List.append_nil, List.nil_append, List.nil_append, ← h.told_eq hnote.toRemains] at hboth

end Warns

instance : IsPreorder (Bridge σ) Warned where
  refl b := ⟨[], Std.Refl.refl (r := Calm) b⟩
  trans _ _ _ := by
    rintro ⟨failing, h⟩ ⟨failing', h'⟩
    exact ⟨failing ++ failing', h.trans h'⟩

theorem Warned.calm {x : Action σ α} (hx : x.Ensures Calm) : x.Ensures Warned :=
  fun b => ⟨[], hx b⟩

end Bridge

open Bridge

/-! ## Resources -/

namespace Resource

/-- What failed with a resource, if a call that releases it ends with a failure. -/
def failed (r : Resource) : Except Failure α → List (Resource × Failure)
  | .ok _ => []
  | .error e => [(r, e)]

/-- **A release hands its failure on**, and warns of nothing. -/
theorem release_surfaces (b : Bridge σ) (r : Resource) :
    Surfaces (r.failed (r.release b).1) [] [] b (r.release b).2 := by
  cases hopen : (b.resource r).closed with
  | true =>
    rw [release_of_closed hopen]
    exact Std.Refl.refl (r := Calm) b
  | false =>
    have hretire := (Surfaces.retire b (has_of_open hopen)).trans
      (Surfaces.remarked (b.retire r) (r := releasedRemark b r) rfl)
    rw [release_of_open hopen, outcome]
    rcases hfailure : (b.resource r).releaser.failure with _ | e <;> rw [hfailure] at hretire <;>
      exact hretire

theorem close_surfaces (b : Bridge σ) (r : Resource) :
    Surfaces (r.failed (r.close b).1) [] [] b (r.close b).2 := by
  have hrelease := release_surfaces b r
  rw [close, bind_apply]
  rcases hresult : r.release b with ⟨_ | _, b'⟩ <;> rw [hresult] at hrelease <;> exact hrelease

/-- What fails to be released was made. -/
theorem has_of_release_error {b : Bridge σ} {r : Resource} {e : Failure}
    (h : (r.release b).1 = .error e) : b.Has (.resource r) := by
  refine has_of_open (Bool.eq_false_iff.2 fun hclosed => ?_)
  rw [release_of_closed hclosed] at h
  cases h

theorem drop_total (r : Resource) : (r.drop : Action σ Unit).Total := by
  refine .bind (.read _) fun s => .bind (.attempt _) fun result => ?_
  rcases result with e | _ | _
  · exact .remark _
  · exact .pure ()
  · exact .remark _

/-- **A drop warns** of what it has nobody to hand to. -/
theorem drop_warned (r : Resource) : (r.drop : Action σ Unit).Ensures Warned := by
  intro b
  rw [drop, bind_of_ok (read_apply _ _), bind_of_ok (attempt_apply _ _)]
  have hrelease := release_surfaces b r
  rcases hresult : r.release b with ⟨e | _ | _, b'⟩ <;> rw [hresult] at hrelease
  · have hr := has_of_release_error (congrArg Prod.fst hresult)
    let warning := Remark.releaseOnDropFailed (b.resource r).id (b.resource r).kind e
    refine ⟨[(r, e)], .of_remark (r := warning) hrelease ?_ rfl⟩
    exact congrArg (fun kind => [(kind, e)]) (hrelease.kind hr).symm
  · exact ⟨[], hrelease⟩
  · exact ⟨[], Surfaces.trans hrelease (.remarked b' (r := .releasedOnDrop _ _) rfl)⟩

/-- **An adoption that comes too late** warns of the release that it makes. -/
theorem adopt_warned (m : Manager) (h : Handle) (kind : Kind) (releaser : Releaser σ) :
    (adopt m h kind releaser).Ensures Warned := by
  intro b
  have hnext := b.resource_enroll_next m h kind releaser
  have henroll : Calm b (b.enroll m h kind releaser) := by
    refine .unnoted (.enroll b m h kind releaser) rfl fun f hf => ?_
    obtain ⟨hhas, hclosed, hfailure⟩ := hf
    have hne : f.1 ≠ b.next := by
      intro heq
      rw [heq, hnext] at hclosed
      cases hclosed
    rw [b.resource_enroll_of_ne m h kind releaser hne] at hclosed hfailure
    refine ⟨by_contra fun hnew => hne ?_, hclosed, hfailure⟩
    exact Object.resource.inj (eq_next_of_enroll hhas hnew)
  cases hm : (b.manager m).closed with
  | true =>
    rw [adopt_of_closed hm]
    have hhas : (b.enroll m h kind releaser).Has (.resource b.next) :=
      has_of_open (by rw [hnext])
    have hreject : Surfaces _ [] [] b (b.reject m h kind releaser) :=
      Surfaces.trans henroll (.settle _ hhas)
    rw [hnext] at hreject
    rcases hfailure : releaser.failure with _ | e <;> rw [hfailure] at hreject
    · exact ⟨[], hreject⟩
    · refine ⟨_, .of_remark (r := .unregisteredReleaseFailed kind e) hreject ?_ rfl⟩
      refine congrArg (fun kind => [(kind, e)]) ?_
      rw [Bridge.reject, resource_settle, if_pos rfl, hnext]
      rfl
  | false =>
    rw [adopt_of_open hm]
    have haccept : Calm b (b.accept m h kind releaser) :=
      IsTrans.trans _ _ _ henroll (.unnoted (.modifyManager _ m fun _ => id) rfl fun _ => id)
    exact ⟨[], haccept.trans (.remarked _ (r := .adopted _ _) rfl)⟩

end Resource

/-! ## Managers -/

/-- The failures that a teardown ends with. -/
def Failure.members : Except Failure α → List Failure
  | .error (.teardown _ primary secondary) => primary :: secondary
  | _ => []

/-- How a teardown ends in which releases failed, or none. -/
def Failure.verdict (failures : List Failure) (result : α) : Except Failure α :=
  (aggregate failures).elim (.ok result) .error

theorem Failure.members_verdict (failures : List Failure) (result : α) :
    members (verdict failures result) = failures := by
  cases failures <;> rfl

namespace Manager

/-- A change of a scope that keeps it closed if it is. -/
theorem calm_modify (b : Bridge σ) (m : Manager) {f : State → State}
    (hf : ∀ s, s.closed = true → (f s).closed = true) : Calm b (b.modifyManager m f) :=
  .unnoted (.modifyManager b m hf) rfl fun _ => id

/-- **A teardown warns of each failure** and keeps it, in order. -/
theorem releaseAll_warns (registry : Registry) (outcome : Teardown) (failures : List Failure)
    (b : Bridge σ) :
    ∃ failing outcome' b', Warns failing b b' ∧
      releaseAll registry outcome failures b =
        (.ok (outcome', failures ++ failing.map Prod.snd), b') := by
  induction registry generalizing outcome failures b with
  | nil =>
    refine ⟨[], outcome, b, Std.Refl.refl (r := Calm) b, ?_⟩
    rw [List.map_nil, List.append_nil]
    rfl
  | cons entry rest ih =>
    obtain ⟨id, r⟩ := entry
    have hrelease := r.release_surfaces b
    rw [releaseAll, bind_of_ok (read_apply _ _), bind_of_ok (attempt_apply _ _)]
    rcases hresult : r.release b with ⟨e | _ | _, b'⟩ <;> rw [hresult] at hrelease
    · let s := b.resource r
      have hkind := hrelease.kind (Resource.has_of_release_error (congrArg Prod.fst hresult))
      have hwarns : Warns [(r, e)] b
          (b'.note (.remarked (.stragglerReleaseFailed s.id s.kind e))) :=
        .of_remark hrelease (congrArg (fun kind => [(kind, e)]) hkind.symm) rfl
      obtain ⟨failing, outcome', b'', hrest, heq⟩ := ih (outcome.record s.kind.text true)
        (failures ++ [e]) (b'.note (.remarked (.stragglerReleaseFailed s.id s.kind e)))
      refine ⟨(r, e) :: failing, outcome', b'', hwarns.trans hrest, heq.trans ?_⟩
      rw [List.map_cons, List.append_assoc]
      rfl
    · obtain ⟨failing, outcome', b'', hrest, heq⟩ := ih outcome failures b'
      exact ⟨failing, outcome', b'', .after hrelease hrest, heq⟩
    · obtain ⟨failing, outcome', b'', hrest, heq⟩ :=
        ih (outcome.record (b.resource r).kind.text false) failures b'
      exact ⟨failing, outcome', b'', .after hrelease hrest, heq⟩

/-- **The close of a manager** hands on what it warned of. -/
theorem close_warns (b : Bridge σ) (m : Manager) :
    ∃ failing outcome b', Warns failing b b' ∧
      m.close b = (Failure.verdict (failing.map Prod.snd) outcome, b') := by
  cases hm : (b.manager m).closed with
  | true => exact ⟨[], .empty, b, Std.Refl.refl (r := Calm) b, close_of_closed hm⟩
  | false =>
    have hshut : Calm b (b.modifyManager m (·.shut)) := calm_modify b m fun s _ => s.closed_shut
    obtain ⟨failing, outcome, b', hwarns, hrun⟩ :=
      releaseAll_warns (b.manager m).registry .empty [] (b.modifyManager m (·.shut))
    rw [close, bind_of_ok (read_apply _ _), if_neg (Bool.eq_false_iff.1 hm),
      bind_of_ok (update_apply _ _), bind_of_ok (clock_apply _), bind_of_ok hrun]
    dsimp only
    rw [bind_of_ok (clock_apply _), bind_of_ok (update_apply _ _), bind_of_ok (remark_apply _ _),
      bind_of_ok (remark?_apply _ _)]
    have htold (b : Bridge σ) (spent : Nat) : Calm b (b.tell (Remark.ofTeardown spent)) := by
      rw [Remark.ofTeardown]
      split
      · exact .remarked b rfl
      · exact Std.Refl.refl b
    have hback : Calm b' (b'.handBack m) :=
      (calm_modify b' m fun s hs => s.closed_handBack.trans hs).trans (Calm.asking.reclaim _ m)
    let micros := Duration.micros (b'.machine.clock - b.machine.clock)
    let b₁ := (b'.handBack m).note
      (.remarked (.managerClosed outcome.disposed outcome.errors micros))
    let b'' := b₁.tell (Remark.ofTeardown (micros.toNat * 1000))
    have hcalm : Calm b' b'' :=
      IsTrans.trans _ _ _ hback (IsTrans.trans _ b₁ _ (.remarked _ rfl) (htold _ _))
    refine ⟨failing, { outcome with micros, bytes := (b.manager m).phase.bytes }, b'',
      .before (.after hshut hwarns) hcalm, ?_⟩
    rw [List.nil_append, Failure.verdict]
    cases Failure.aggregate (failing.map Prod.snd) <;> rfl

/-- **The drop of a manager** warns once more of all failures together. -/
theorem drop_surfaces (b : Bridge σ) (m : Manager) :
    ∃ failing, Surfaces failing ((m.drop b).2.told failing)
      (Failure.aggregate (failing.map Prod.snd)).toList b (m.drop b).2 := by
  have hforsake (b : Bridge σ) : Calm b (b.modifyManager m (·.forsake)) :=
    calm_modify b m fun _ => id
  rw [drop, bind_of_ok (read_apply _ _)]
  split
  · exact ⟨[], hforsake b⟩
  · obtain ⟨failing, outcome, b', hwarns, heq⟩ := close_warns b m
    refine ⟨failing, ?_⟩
    rw [bind_of_ok (attempt_apply _ _), heq, Failure.verdict]
    cases Failure.aggregate (failing.map Prod.snd) with
    | none =>
      dsimp only [Option.elim]
      split
      · have hremarked := Surfaces.remarked b' (r := .stragglersReleasedOnDrop outcome.disposed) rfl
        exact hwarns.summed (hremarked.trans (hforsake _))
      · exact hwarns.summed (hforsake b')
    | some e =>
      have hsum : Surfaces [] [] [e] b' (b'.note (.remarked (.managerDropFailed e))) :=
        Surfaces.note b' (e := .remarked (.managerDropFailed e)) rfl
      exact hwarns.summed (hsum.trans (hforsake _))

theorem drop_total (m : Manager) : (m.drop : Action σ Unit).Total := by
  have hforsake : (Action.update (·.modifyManager m (·.forsake)) : Action σ Unit).Total := .update _
  refine .bind (.read _) fun s => ?_
  split
  · exact hforsake
  · refine .bind (.attempt _) fun result => ?_
    rcases result with e | outcome
    · exact .bind (.remark _) fun _ => hforsake
    · dsimp only
      split
      · exact .bind (.remark _) fun _ => hforsake
      · exact hforsake

theorem create_calm (capacity : Nat) : (create capacity : Action σ _).Ensures Calm := by
  rw [create]
  split
  · exact .pure _
  · refine .bind (.read _) fun _ => .bind (fun b => ?_) fun _ =>
      .bind (Calm.asking.remark rfl) fun _ => .pure _
    exact .unnoted (.addManager b _) rfl fun _ => id

theorem register_calm (m : Manager) (r : Resource) :
    (m.register r : Action σ Unit).Ensures Calm := by
  intro b
  rcases m.register_cases b r with ⟨e, heq⟩ | ⟨heq, -⟩ <;> rw [heq]
  · exact Std.Refl.refl b
  · exact calm_modify b m fun _ => id

theorem deregister_calm (m : Manager) (r : Resource) :
    (m.deregister r : Action σ Bool).Ensures Calm := by
  intro b
  rw [m.deregister_apply]
  split
  · exact (calm_modify b m (f := (·.withdraw _)) fun _ => id).trans
      (.remarked _ (r := .deregistered _ _) rfl)
  · exact Std.Refl.refl b

end Manager

/-! ## Adoptions and takes -/

section Adopting

variable (library : Library σ) (m : Manager) (h : Handle)

theorem Context.adopt_warned : (Context.adopt library m h).Ensures Warned :=
  .bind (Resource.adopt_warned m h _ _) fun _ => .bind (.read _) fun _ =>
    .bind (Warned.calm fun b => .unnoted (.addContext b _) rfl fun _ => id) fun _ => .pure _

theorem Job.adopt_warned (converter : Converter σ) :
    (Job.adopt library m h converter).Ensures Warned :=
  .bind (Resource.adopt_warned m h _ _) fun _ => .bind (.read _) fun _ =>
    .bind (Warned.calm fun b => .unnoted (.addJob b _) rfl fun _ => id) fun _ => .pure _

theorem Cancellation.adopt_warned : (Cancellation.adopt library m h).Ensures Warned :=
  .bind (Resource.adopt_warned m h _ _) fun _ => .bind (.read _) fun _ =>
    .bind (Warned.calm fun b => .unnoted (.addCancellation b _) rfl fun _ => id) fun _ => .pure _

theorem Context.create_warned : (Context.create library m).Ensures Warned := by
  refine .bind (.calm (Calm.asking.allocate m _)) fun out =>
    .bind (.calm (Calm.asking.invokeInto _ _ _ _ _)) fun answer => ?_
  split
  · split
    · exact adopt_warned library m _
    · exact .fail _
  · exact .fail _

end Adopting

namespace Job

variable (j : Job) (ctx : Option Context)

theorem cancelAsync_warned : (j.cancelAsync ctx : Action σ _).Ensures Warned := by
  refine .bind (.read _) fun s => .bind (.read _) fun resource =>
    .bind (.calm (Calm.asking.allocate _ _)) fun out => ?_
  refine .bind (.calm (Conversing.withHandle _ fun h =>
    Calm.asking.callNative ctx _ fun c => Calm.asking.invokeInto _ _ _ _ _)) fun tracker => ?_
  split
  · exact .pure _
  · exact .map (Cancellation.adopt_warned _ _ _)

theorem takeOnce_calm (mode : TakeMode) : (j.takeOnce ctx mode : Action σ _).Ensures Calm := by
  refine .bind (.read _) fun s => .bind (.read _) fun resource => ?_
  refine .bind (Calm.asking.allocate _ _) fun valueOut => .bind (Calm.asking.allocate _ _)
    fun readyOut => Conversing.withHandle _ fun h => ?_
  split
  · exact .pure _
  · refine .bind (Calm.asking.takeNatively _ _ _ _ _ _) fun answer => ?_
    split
    · exact .pure _
    · exact .bind (fun b => .unnoted (.markTaken b j) rfl fun _ => id) fun _ => .pure _

/-- The value of a job is adopted like anything else. -/
theorem convert_warned (value : TakenValue) :
    (j.convert value : Action σ Yield).Ensures Warned := by
  refine .bind (.calm fun b => .note b (e := .converted j value.handle) rfl) fun _ =>
    .bind (.read _) fun s => ?_
  rcases hkept : value.kept s.converter with _ | h
  · exact .calm (Calm.asking.convert hkept)
  · obtain ⟨kind, releaser, heq⟩ := TakenValue.convert_of_kept hkept
    rw [heq]
    exact .bind (Resource.adopt_warned _ _ _ _) fun _ => .pure _

theorem take?_warned (mode : TakeMode) : (j.take? ctx mode : Action σ _).Ensures Warned := by
  refine .bind (.read _) fun _ => .bind (.read _) fun _ =>
    .bind (.calm (j.takeOnce_calm ctx mode)) fun found => ?_
  cases found with
  | alreadyTaken => exact .bind (.calm (Calm.asking.label j ctx)) fun _ => .fail _
  | notReady => exact .bind (.calm (Calm.asking.remark rfl)) fun _ => .pure _
  | taken value =>
    exact .bind (.calm (Calm.asking.remark rfl)) fun _ =>
      .bind (.calm (Calm.asking.label j ctx)) fun _ => .map (j.convert_warned _)

theorem takeExpecting_warned (symbol : Symbol) (mode : TakeMode) :
    (takeExpecting symbol (j.take? ctx mode) : Action σ _).Ensures Warned := by
  refine .bind (j.take?_warned ctx mode) fun answer => ?_
  split
  · exact .pure _
  · exact .fail _

/-- The release of a job must not fail: next to a failure of the library's close it would be
lost. -/
theorem close_surfaces (b : Bridge σ) :
    ∃ failing, Surfaces failing [] [] b (j.close ctx b).2 ∧
      ((b.resource (b.job j).resource).releaser.failure = none → failing = []) := by
  cases hopen : (b.resource (b.job j).resource).closed with
  | true =>
    rw [close_of_closed hopen]
    exact ⟨[], Std.Refl.refl (r := Calm) b, fun _ => rfl⟩
  | false =>
    let r := (b.job j).resource
    let b₁ := (closing b j ctx b).2
    have hclosing : Calm b b₁ := Conversing.withHandle (R := Calm) r
      (fun h => Calm.asking.callNative ctx .jobClose fun c => Calm.asking.invoke _ _ _) b
    rw [close_eq_of_open hopen ctx]
    refine ⟨_, hclosing.trans (r.close_surfaces b₁), fun hfailure => ?_⟩
    have hresource : b₁.resource r = b.resource r := (quiet_closing b j ctx b).resource r
    rw [Resource.close_of_open (hresource ▸ hopen) (hresource ▸ hfailure)]
    rfl

end Job

end HandleBridge
