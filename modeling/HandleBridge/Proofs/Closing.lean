import Mathlib.Algebra.Ring.Int.Defs
import Mathlib.Algebra.Ring.Nat
import HandleBridge.Proofs.ExactlyOnce

/-!
# Proofs/Closing — what a teardown releases, and what it tells

A registry is kept newest first and a resource stands in it once, so walking it releases each
registered resource once, in the reverse order of adoption, whatever came and went by hand.  No
failure stops the walk: failures are kept in order and become one, and without any the counts are
given.
-/

namespace HandleBridge

open HandleBridge.Action Bridge

variable {σ : Type}

/-! ## Counting -/

namespace Teardown

/-- What stands first under a name hides the rest. -/
theorem lookup_cons_if (name key : String) (n : Nat) (counts : List (String × Nat)) :
    ((name, n) :: counts).lookup key = if key = name then some n else counts.lookup key := by
  rw [List.lookup_cons]
  by_cases h : key = name
  · rw [if_pos h, beq_iff_eq.2 h]
  · rw [if_neg h, beq_false_of_ne h]

theorem lookup_increment (name key : String) (counts : List (String × Nat)) :
    (increment name counts).lookup key =
      if key = name then some ((counts.lookup key).getD 0 + 1) else counts.lookup key := by
  induction counts with
  | nil => exact lookup_cons_if name key 1 []
  | cons entry rest ih =>
    rw [increment]
    split
    · rename_i heq
      subst heq
      rw [lookup_cons_if, lookup_cons_if]
      split <;> rfl
    · rename_i hne
      rw [lookup_cons_if, ih, lookup_cons_if]
      by_cases hkey : key = entry.1
      · rw [if_pos hkey, if_pos hkey, if_neg (hkey ▸ hne)]
      · rw [if_neg hkey, if_neg hkey]

theorem sum_increment (name : String) (counts : List (String × Nat)) :
    ((increment name counts).map Prod.snd).sum = (counts.map Prod.snd).sum + 1 := by
  induction counts with
  | nil => rfl
  | cons entry rest ih =>
    rw [increment]
    split
    · simp only [List.map_cons, List.sum_cons]
      omega
    · simp only [List.map_cons, List.sum_cons, ih]
      omega

theorem mem_keys_increment {name key : String} {counts : List (String × Nat)}
    (h : key ∈ (increment name counts).map Prod.fst) : key = name ∨ key ∈ counts.map Prod.fst := by
  induction counts with
  | nil => exact .inl (List.mem_singleton.1 h)
  | cons entry rest ih =>
    rw [increment] at h
    split at h
    · exact .inr h
    · rcases List.mem_cons.1 h with rfl | h
      · exact .inr (.head _)
      · exact (ih h).imp_right (.tail _)

theorem nodup_increment (name : String) {counts : List (String × Nat)}
    (h : (counts.map Prod.fst).Nodup) : ((increment name counts).map Prod.fst).Nodup := by
  induction counts with
  | nil => exact List.pairwise_singleton _ name
  | cons entry rest ih =>
    obtain ⟨hentry, hrest⟩ := List.nodup_cons.1 h
    rw [increment]
    split
    · exact h
    · rename_i hne
      refine List.nodup_cons.2 ⟨fun hmem => ?_, ih hrest⟩
      exact (mem_keys_increment hmem).elim hne hentry

/-! ### All releases of a teardown -/

/-- The outcome with resources recorded, in order. -/
def recordAll (outcome : Teardown) (states : List (Resource.State σ)) : Teardown :=
  states.foldl (fun t s => t.record s.kind.text s.releaser.failure.isSome) outcome

variable (outcome : Teardown) (states : List (Resource.State σ))

theorem disposed_recordAll :
    (outcome.recordAll states).disposed = outcome.disposed + states.length := by
  induction states generalizing outcome with
  | nil => rfl
  | cons s rest ih =>
    rw [recordAll, List.foldl_cons, ← recordAll, ih, List.length_cons, Nat.add_comm _ 1,
      ← Nat.add_assoc]
    rfl

theorem errors_recordAll (h : ∀ s ∈ states, s.releaser.failure = none) :
    (outcome.recordAll states).errors = outcome.errors := by
  induction states generalizing outcome with
  | nil => rfl
  | cons s rest ih =>
    obtain ⟨hs, hrest⟩ := List.forall_mem_cons.1 h
    rw [recordAll, List.foldl_cons, ← recordAll, ih _ hrest, record, hs]
    rfl

theorem sum_recordAll :
    ((outcome.recordAll states).byKind.map Prod.snd).sum =
      (outcome.byKind.map Prod.snd).sum + states.length := by
  induction states generalizing outcome with
  | nil => rfl
  | cons s rest ih =>
    rw [recordAll, List.foldl_cons, ← recordAll, ih, record, sum_increment, List.length_cons]
    omega

theorem nodup_recordAll (h : (outcome.byKind.map Prod.fst).Nodup) :
    ((outcome.recordAll states).byKind.map Prod.fst).Nodup := by
  induction states generalizing outcome with
  | nil => exact h
  | cons s rest ih => exact ih _ (nodup_increment _ h)

theorem lookup_recordAll (text : String) :
    ((outcome.recordAll states).byKind.lookup text).getD 0 =
      (outcome.byKind.lookup text).getD 0 + states.countP (·.kind.text = text) := by
  induction states generalizing outcome with
  | nil => rfl
  | cons s rest ih =>
    rw [recordAll, List.foldl_cons, ← recordAll, ih, record, lookup_increment, List.countP_cons]
    by_cases h : text = s.kind.text
    · simp [h]
      omega
    · simp [h, Ne.symm h]

end Teardown

/-! ## Releasing in order -/

namespace Bridge

/-- The bridge after one release of a teardown. -/
def straggle (b : Bridge σ) (r : Resource) : Bridge σ :=
  let s := b.resource r
  let b' := (b.retire r).note (.remarked (Resource.releasedRemark b r))
  match s.releaser.failure with
  | none => b'
  | some e => b'.note (.remarked (.stragglerReleaseFailed s.id s.kind e))

theorem quiet_straggle (b : Bridge σ) (r : Resource) : Quiet (b.retire r) (b.straggle r) := by
  rw [straggle]
  rcases (b.resource r).releaser.failure with _ | e
  · exact Quiet.remarked _ _
  · exact (Quiet.remarked _ _).trans (Quiet.remarked _ _)

theorem machine_straggle (b : Bridge σ) (r : Resource) :
    (b.straggle r).machine = (b.resource r).releaser.run (b.resource r).handle b.machine := by
  rw [straggle]
  rcases (b.resource r).releaser.failure with _ | e <;> rfl

theorem resource_straggle_of_ne {b : Bridge σ} {r r' : Resource} (h : r' ≠ r) :
    (b.straggle r).resource r' = b.resource r' := by
  rw [(b.quiet_straggle r).resource]
  exact (b.resource_settle r r').trans (if_neg h)

theorem releases_straggle (b : Bridge σ) (r : Resource) :
    (b.straggle r).releases =
      b.releases ++ [(r, (b.resource r).handle, (b.resource r).releaser.failure)] :=
  (b.quiet_straggle r).releases.trans (b.releases_settle r)

end Bridge

/-- The machine after release actions, one after the other. -/
def Machine.afterAll (machine : Machine σ) (states : List (Resource.State σ)) : Machine σ :=
  states.foldl (fun machine s => s.releaser.run s.handle machine) machine

/-- The time that passes in each of several release actions, in order. -/
def Machine.spans (machine : Machine σ) : List (Resource.State σ) → List Int
  | [] => []
  | s :: rest =>
    ((s.releaser.run s.handle machine).clock - machine.clock : Int) ::
      spans (s.releaser.run s.handle machine) rest

/-- What the clock shows at both ends is what passed in between. -/
theorem Machine.sum_spans (machine : Machine σ) (states : List (Resource.State σ)) :
    (machine.spans states).sum = ((machine.afterAll states).clock - machine.clock : Int) := by
  induction states generalizing machine with
  | nil => exact (Int.sub_self _).symm
  | cons s rest ih =>
    rw [spans, List.sum_cons, ih, afterAll, afterAll, List.foldl_cons]
    omega

/-- The failures that release actions end with, in order. -/
def failuresOf (states : List (Resource.State σ)) : List Failure :=
  states.filterMap (·.releaser.failure)

theorem failuresOf_cons (s : Resource.State σ) (states : List (Resource.State σ)) :
    failuresOf (s :: states) = s.releaser.failure.toList ++ failuresOf states := by
  rw [failuresOf, List.filterMap_cons]
  rcases s.releaser.failure with _ | e <;> rfl

namespace Manager

/-- One release of a teardown, and the rest. -/
theorem releaseAll_cons {b : Bridge σ} {r : Resource} (h : (b.resource r).closed = false) (id : Nat)
    (rest : Registry) (outcome : Teardown) (failures : List Failure) :
    releaseAll ((id, r) :: rest) outcome failures b =
      releaseAll rest
        (outcome.record (b.resource r).kind.text (b.resource r).releaser.failure.isSome)
        (failures ++ (b.resource r).releaser.failure.toList) (b.straggle r) := by
  have hrelease := Resource.release_of_open h
  rw [releaseAll, bind_of_ok (read_apply _ _), bind_of_ok (attempt_apply _ _), hrelease,
    Resource.outcome, straggle]
  rcases (b.resource r).releaser.failure with _ | e
  · rw [Option.toList_none, List.append_nil]
    rfl
  · rfl

/-- **Open resources are released in order**, each once, whatever fails on the way. -/
theorem releaseAll_apply {registry : Registry} {b : Bridge σ}
    (hopen : ∀ r ∈ registry.map Prod.snd, (b.resource r).closed = false)
    (hnodup : (registry.map Prod.snd).Nodup) (outcome : Teardown) (failures : List Failure) :
    let states := (registry.map Prod.snd).map b.resource
    ∃ b', releaseAll registry outcome failures b =
        (.ok (outcome.recordAll states, failures ++ failuresOf states), b') ∧
      b'.machine = b.machine.afterAll states ∧
      b'.releases = b.releases ++ (registry.map Prod.snd).map fun r =>
        (r, (b.resource r).handle, (b.resource r).releaser.failure) := by
  induction registry generalizing b outcome failures with
  | nil => exact ⟨b, by simp [releaseAll, failuresOf, Teardown.recordAll], rfl, by simp⟩
  | cons entry rest ih =>
    obtain ⟨id, r⟩ := entry
    obtain ⟨hr, hrest⟩ := List.forall_mem_cons.1 hopen
    obtain ⟨hnot, hnodup⟩ := List.nodup_cons.1 hnodup
    -- The release of one resource leaves the others as they were.
    have hsame {r' : Resource} (hr' : r' ∈ rest.map Prod.snd) :
        (b.straggle r).resource r' = b.resource r' :=
      resource_straggle_of_ne fun heq => hnot (heq ▸ hr')
    have hmap {β : Type} (f : Resource → Resource.State σ → β) :
        ((rest.map Prod.snd).map fun r' => f r' ((b.straggle r).resource r')) =
          (rest.map Prod.snd).map fun r' => f r' (b.resource r') :=
      List.map_congr_left fun r' hr' => congrArg (f r') (hsame hr')
    have hopen' : ∀ r' ∈ rest.map Prod.snd, ((b.straggle r).resource r').closed = false :=
      fun r' hr' => by rw [hsame hr', hrest r' hr']
    obtain ⟨b', hrun, hmachine, hreleases⟩ := ih hopen' hnodup
      (outcome.record (b.resource r).kind.text (b.resource r).releaser.failure.isSome)
      (failures ++ (b.resource r).releaser.failure.toList)
    rw [hmap fun _ s => s] at hrun hmachine
    rw [hmap fun r s => (r, s.handle, s.releaser.failure)] at hreleases
    refine ⟨b', ?_, ?_, ?_⟩
    · rw [releaseAll_cons hr, hrun, List.append_assoc, ← failuresOf_cons]
      rfl
    · rw [hmachine, machine_straggle]
      rfl
    · rw [hreleases, releases_straggle, List.append_assoc]
      rfl

/-- What is registered with a manager, in the order in which a teardown releases it. -/
def stragglers (b : Bridge σ) (m : Manager) : List Resource := (b.manager m).registry.map Prod.snd

/-- What a teardown tells: the failures as one, or the counts. -/
def verdict (states : List (Resource.State σ)) (spent bytes : Nat) : Except Failure Teardown :=
  match Failure.aggregate (failuresOf states) with
  | some e => .error e
  | none => .ok { Teardown.empty.recordAll states with micros := Duration.micros spent, bytes }

/-- **Closing an open manager** releases its stragglers and tells how that went. -/
theorem close_of_open {b : Bridge σ} (h : b.WellFormed) {m : Manager}
    (hm : (b.manager m).closed = false) :
    let states := (m.stragglers b).map b.resource
    ∃ bytes,
      (m.close b).1 = verdict states ((b.machine.afterAll states).clock - b.machine.clock) bytes ∧
      (m.close b).2.machine = b.machine.afterAll states ∧
      (m.close b).2.releases = b.releases ++ (m.stragglers b).map fun r =>
        (r, (b.resource r).handle, (b.resource r).releaser.failure) := by
  intro states
  have hopen : ∀ r ∈ m.stragglers b, (b.resource r).closed = false := by
    intro r hr
    obtain ⟨e, he, rfl⟩ := List.mem_map.1 hr
    exact (h.entry m e.1 e.2 he).1
  -- Nobody sees that the scope was shut before.
  obtain ⟨b', hrun, hmachine, hreleases⟩ : ∃ b',
      releaseAll (b.manager m).registry .empty [] (b.modifyManager m (·.shut)) =
        (.ok (Teardown.empty.recordAll states, failuresOf states), b') ∧
      b'.machine = b.machine.afterAll states ∧ b'.releases = _ :=
    releaseAll_apply (b := b.modifyManager m (·.shut)) hopen (h.nodup m) .empty []
  have hback : (b'.handBack m).machine = b'.machine := machine_reclaim _ m
  refine ⟨(b.manager m).phase.bytes, ?_⟩
  rw [close, bind_of_ok (read_apply _ _), if_neg (Bool.eq_false_iff.1 hm),
    bind_of_ok (update_apply _ _), bind_of_ok (clock_apply _), bind_of_ok hrun]
  dsimp only
  rw [bind_of_ok (clock_apply _), bind_of_ok (update_apply _ _), bind_of_ok (remark_apply _ _),
    hmachine, bind_of_ok (remark?_apply _ _), verdict]
  have tell (outcome : Teardown) (c : Bridge σ) :
      (ofFailure (Failure.aggregate (failuresOf states)) >>= fun _ => pure outcome) c =
        (match Failure.aggregate (failuresOf states) with
          | some e => .error e
          | none => .ok outcome, c) := by
    rcases Failure.aggregate (failuresOf states) with _ | e <;> rfl
  rw [tell]
  refine ⟨rfl, (machine_tell _ _).trans (hback.trans hmachine),
    (Quiet.tell _ _).releases.trans ?_⟩
  exact (Quiet.remarked _ _).releases.trans ((Quiet.handBack b' m).releases.trans hreleases)

/-! ## What is told -/

section Verdict

variable {states : List (Resource.State σ)} {spent bytes : Nat}

theorem verdict_error {e : Failure} (h : verdict states spent bytes = .error e) :
    ∃ primary secondary, e = .teardown (failuresOf states).length primary secondary ∧
      primary :: secondary = failuresOf states := by
  rw [verdict] at h
  rcases hfailures : failuresOf states with _ | ⟨primary, secondary⟩ <;> rw [hfailures] at h
  · cases h
  · exact ⟨primary, secondary, (Except.error.inj h).symm, rfl⟩

theorem verdict_ok {t : Teardown} (h : verdict states spent bytes = .ok t) :
    failuresOf states = [] ∧
      t = { Teardown.empty.recordAll states with micros := Duration.micros spent, bytes } := by
  rw [verdict] at h
  rcases hfailures : failuresOf states with _ | ⟨primary, secondary⟩ <;> rw [hfailures] at h
  · exact ⟨rfl, (Except.ok.inj h).symm⟩
  · cases h

end Verdict

/-! ## Along a run -/

/-- A teardown releases the newest resource first. -/
theorem stragglers_pairwise {b : Bridge σ} (h : b.WellFormed) (m : Manager) :
    (m.stragglers b).Pairwise fun r r' =>
      r'.index < r.index ∧ (b.resource r').id < (b.resource r).id := by
  refine List.pairwise_map.2 ((h.sorted m).imp_of_mem fun {e e'} he he' hlt => ?_)
  obtain ⟨-, howner, hid⟩ := h.entry m e.1 e.2 he
  obtain ⟨-, howner', hid'⟩ := h.entry m e'.1 e'.2 he'
  rw [← hid, ← hid'] at hlt
  refine ⟨?_, hlt⟩
  rcases Nat.lt_trichotomy e'.2.index e.2.index with hindex | hindex | hindex
  · exact hindex
  · have heq : e'.2 = e.2 := congrArg Resource.mk hindex
    rw [heq] at hlt
    exact absurd hlt (Nat.lt_irrefl _)
  · have := h.id_lt_id e.2 e'.2 (h.has_of_mem he') hindex (howner.trans howner'.symm)
    omega

theorem mem_stragglers {b : Bridge σ} (h : b.WellFormed) {m : Manager} {r : Resource} :
    r ∈ m.stragglers b ↔ m.contains b r = true := by
  rw [contains, (h.sorted m).contains_iff, stragglers, List.mem_map]
  constructor
  · rintro ⟨⟨id, r⟩, hmem, rfl⟩
    obtain ⟨-, -, rfl⟩ := h.entry m id r hmem
    exact hmem
  · exact fun hmem => ⟨_, hmem, rfl⟩

end Manager

/-- **The end of a scope.**  Exactly what is registered is released, each resource once and the
newest first, whatever fails on the way.  The failures are told if there are any, and else the
counts; either way the scope is closed with nothing left in it. -/
theorem Run.teardown_of_open {native : σ} {env : Environment} {b : Bridge σ}
    (run : Run (.start native env) b) {m : Manager} (hm : (b.manager m).closed = false) :
    let released := m.stragglers b
    let states := released.map b.resource
    let failures := failuresOf states
    let spent := (b.machine.spans states).sum.toNat
    (∀ r, r ∈ released ↔ m.contains b r = true) ∧
    (released.Pairwise fun r r' => r'.index < r.index ∧ (b.resource r').id < (b.resource r).id) ∧
    (m.close b).2.releases = b.releases ++ released.map (fun r =>
      (r, (b.resource r).handle, (b.resource r).releaser.failure)) ∧
    (m.close b).2.machine = b.machine.afterAll states ∧
    ((∃ e, (m.close b).1 = .error e) ↔ failures ≠ []) ∧
    (∀ e, (m.close b).1 = .error e → ∃ primary secondary,
      e = .teardown failures.length primary secondary ∧ primary :: secondary = failures) ∧
    (∀ t, (m.close b).1 = .ok t →
      t.disposed = released.length ∧ t.disposed = (t.byKind.map Prod.snd).sum ∧
      (t.byKind.map Prod.fst).Nodup ∧
      (∀ text, (t.byKind.lookup text).getD 0 =
        released.countP fun r => (b.resource r).kind.text = text) ∧
      t.errors = 0 ∧ (spent / 1000 < UInt64.size → t.micros.toNat = spent / 1000)) ∧
    ((m.close b).2.manager m).closed = true ∧ ((m.close b).2.manager m).registry = [] := by
  intro released states failures spent
  have h := run.ledger.wellFormed
  obtain ⟨bytes, htold, hmachine, hreleases⟩ := Manager.close_of_open h hm
  have hclosed := b.closed_close m
  have htame : Tame none b (m.close b).2 := Tame.closes.closeManager m b
  refine ⟨fun r => Manager.mem_stragglers h, Manager.stragglers_pairwise h m, hreleases, hmachine,
    ?_, fun e he => ?_, fun t ht => ?_, hclosed, (htame h).1.shut m hclosed⟩
  · constructor
    · rintro ⟨e, he⟩ hnone
      obtain ⟨primary, secondary, -, hfailures⟩ := Manager.verdict_error (htold.symm.trans he)
      exact List.cons_ne_nil _ _ (hfailures.trans hnone)
    · intro hsome
      rcases hresult : (m.close b).1 with e | t
      · exact ⟨e, rfl⟩
      · exact absurd (Manager.verdict_ok (htold.symm.trans hresult)).1 hsome
  · exact Manager.verdict_error (htold.symm.trans he)
  · obtain ⟨hnone, rfl⟩ := Manager.verdict_ok (htold.symm.trans ht)
    have hspent : spent = (b.machine.afterAll states).clock - b.machine.clock := by
      rw [show spent = _ from congrArg Int.toNat (b.machine.sum_spans states)]
      omega
    have hlength : states.length = released.length := List.length_map _
    refine ⟨?_, ?_, Teardown.nodup_recordAll _ _ List.nodup_nil, fun text => ?_, ?_,
      fun hbound => ?_⟩
    · exact (Teardown.disposed_recordAll _ states).trans ((Nat.zero_add _).trans hlength)
    · exact (Teardown.disposed_recordAll _ states).trans (Teardown.sum_recordAll .empty states).symm
    · refine (Teardown.lookup_recordAll .empty states text).trans ((Nat.zero_add _).trans ?_)
      exact List.countP_map
    · exact Teardown.errors_recordAll .empty states (List.filterMap_eq_nil_iff.1 hnone)
    · rw [hspent] at hbound ⊢
      exact Nat.mod_eq_of_lt hbound

/-- Three resources, of which the second does not release: the newest goes first. -/
theorem Run.teardown_of_three :
    ∃ (b : Bridge Unit) (_ : Run (.start () []) b),
      (b.manager ⟨0⟩).closed = false ∧
        ((⟨0⟩ : Manager).close b).2.releases =
          [(⟨2⟩, .ofIndex 9, none), (⟨1⟩, .ofIndex 8, some .managerClosed),
            (⟨0⟩, .ofIndex 7, none)] ∧
        ∃ e, ((⟨0⟩ : Manager).close b).1 = .error e := by
  let run₁ := (Run.done (b := Bridge.start () [])).call (.createManager 16) (by decide)
  let run₂ := run₁.call (.adopt ⟨0⟩ (.ofIndex 7) .value 5 none) (by decide)
  let run₃ := run₂.call (.adopt ⟨0⟩ (.ofIndex 8) .value 5 (some .managerClosed)) (by decide)
  let run := run₃.call (.adopt ⟨0⟩ (.ofIndex 9) .context 5 none) (by decide)
  obtain ⟨-, -, hreleases, -, hfails, -⟩ := run.teardown_of_open (m := ⟨0⟩) (by decide)
  exact ⟨_, run, by decide, hreleases.trans rfl, hfails.2 (List.cons_ne_nil _ _)⟩

end HandleBridge
