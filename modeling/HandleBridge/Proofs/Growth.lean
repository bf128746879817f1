import HandleBridge.Proofs.Refusal

/-!
# Proofs/Growth — calls on an open job leave what was made as it was

Of what was made before, a call on a job changes the job's mark and its name and nothing else: it
closes nothing, and what it adopts comes on top.  `Bridge.Grows` is that relation.  It needs no
invariant, so it holds at every bridge at which the job's manager is open.
-/

namespace HandleBridge

open HandleBridge.Action

variable {σ α : Type}

/-- A job but for its mark and its name. -/
def Job.State.bare (s : Job.State σ) : Job.State σ := { s with taken := false, name := none }

namespace Bridge

/-- **What was made stays as it was**, but for the marks and the names of jobs. -/
structure Grows (b b' : Bridge σ) : Prop where
  has : ∀ o, b.Has o → b'.Has o
  resource : ∀ r, b.Has (.resource r) → b'.resource r = b.resource r
  closed : ∀ m, b.Has (.manager m) → (b'.manager m).closed = (b.manager m).closed
  job : ∀ j, b.Has (.job j) → (b'.job j).bare = (b.job j).bare
  cancellation : ∀ c, b.Has (.cancellation c) → b'.cancellation c = b.cancellation c

namespace Grows

variable {b b' b'' : Bridge σ}

theorem refl (b : Bridge σ) : Grows b b :=
  ⟨fun _ => id, fun _ _ => rfl, fun _ _ => rfl, fun _ _ => rfl, fun _ _ => rfl⟩

theorem trans (h : Grows b b') (h' : Grows b' b'') : Grows b b'' where
  has o ho := h'.has o (h.has o ho)
  resource r hr := (h'.resource r (h.has _ hr)).trans (h.resource r hr)
  closed m hm := (h'.closed m (h.has _ hm)).trans (h.closed m hm)
  job j hj := (h'.job j (h.has _ hj)).trans (h.job j hj)
  cancellation c hc := (h'.cancellation c (h.has _ hc)).trans (h.cancellation c hc)

theorem jobResource (h : Grows b b') {j : Job} (hj : b.Has (.job j)) :
    (b'.job j).resource = (b.job j).resource :=
  show (b'.job j).bare.resource = _ from h.job j hj ▸ rfl

theorem jobLibrary (h : Grows b b') {j : Job} (hj : b.Has (.job j)) :
    (b'.job j).library = (b.job j).library :=
  show (b'.job j).bare.library = _ from h.job j hj ▸ rfl

theorem jobConverter (h : Grows b b') {j : Job} (hj : b.Has (.job j)) :
    (b'.job j).converter = (b.job j).converter :=
  show (b'.job j).bare.converter = _ from h.job j hj ▸ rfl

/-- Nothing is closed. -/
theorem live (h : Grows b b') {r : Resource} (hlive : b.Live r) : b'.Live r := by
  rw [Live, h.resource r (has_of_open hlive.1), h.closed _ (has_of_manager_open hlive.2)]
  exact hlive

/-! ### Changes -/

theorem quiet (h : Quiet b b') : Grows b b' where
  has o := (h.has o).2
  resource r _ := h.resource r
  closed m _ := h.closed m
  job j _ := congrArg (fun s : Job.State σ => { s with taken := false }) (h.unnamed j)
  cancellation c _ := by rw [Bridge.cancellation, h.cancellations, Bridge.cancellation]

theorem note (b : Bridge σ) (e : Event) : Grows b (b.note e) := { refl b with }

theorem markTaken (b : Bridge σ) (j : Job) : Grows b (b.modifyJob j (·.markTaken)) := by
  refine { refl b with has := fun o ho => ?_, job := fun j' _ => ?_ }
  · cases o with
    | job j' => exact Nat.lt_of_lt_of_eq ho (Table.size_modify _ _ _).symm
    | _ => exact ho
  · exact b.jobs.get_modify_congr _ Job.State.bare _ _ fun _ => rfl

theorem accept (b : Bridge σ) (m : Manager) (h : Handle) (kind : Kind) (releaser : Releaser σ) :
    Grows b (b.accept m h kind releaser) := by
  refine { refl b with has := fun o ho => ?_, resource := fun r hr => ?_, closed := fun m' _ => ?_ }
  · have := has_enroll b m h kind releaser ho
    cases o with
    | manager m' => rwa [Has, Bridge.accept, Bridge.modifyManager, Table.size_modify]
    | _ => exact this
  · exact b.resource_enroll_of_ne m h kind releaser (ne_next hr)
  · have henter := (b.enroll m h kind releaser).managers.get_modify_congr
      (·.enter (b.manager m).nextId b.next) Manager.State.closed m.index m'.index fun _ => rfl
    exact henter.trans (b.closed_enroll m m' h kind releaser)

theorem addCancellation (b : Bridge σ) (s : Cancellation.State σ) :
    Grows b (b.addCancellation s) := by
  refine { refl b with has := fun o ho => ?_, cancellation := fun c hc => ?_ }
  · cases o with
    | cancellation c => exact Nat.lt_of_lt_of_eq (Nat.lt_succ_of_lt ho) (Table.size_add _ _).symm
    | _ => exact ho
  · exact b.cancellations.get_add_of_lt s hc

end Grows

/-- The bridge with a resource more that an open manager adopted. -/
def adopted (b : Bridge σ) (m : Manager) (h : Handle) (kind : Kind) (releaser : Releaser σ) :
    Bridge σ :=
  (b.accept m h kind releaser).note (.remarked (.adopted (b.manager m).nextId kind))

section Adopted

variable (b : Bridge σ) (m : Manager) (h : Handle) (kind : Kind) (releaser : Releaser σ)

theorem Grows.adopted : Grows b (b.adopted m h kind releaser) :=
  (accept b m h kind releaser).trans (note _ _)

theorem resource_adopted_next :
    (b.adopted m h kind releaser).resource b.next =
      ⟨(b.manager m).nextId, m, kind, h, releaser, b.machine.clock, false⟩ :=
  b.resource_enroll_next m h kind releaser

theorem conversions_adopted : (b.adopted m h kind releaser).conversions = b.conversions :=
  (Quiet.remarked (b.accept m h kind releaser) _).conversions

end Adopted

/-- **Nothing came but resources and remarks.** -/
structure Adds (b b' : Bridge σ) : Prop extends Grows b b' where
  machine : b'.machine = b.machine
  jobs : b'.jobs = b.jobs
  conversions : b'.conversions = b.conversions
  journal : ∃ remarks : List Remark, b'.journal = b.journal ++ remarks.map .remarked

instance : IsPreorder (Bridge σ) Adds where
  refl b := ⟨.refl b, rfl, rfl, rfl, [], (List.append_nil _).symm⟩
  trans _ _ _ h h' := by
    obtain ⟨remarks, hjournal⟩ := h.journal
    obtain ⟨remarks', hjournal'⟩ := h'.journal
    refine ⟨h.toGrows.trans h'.toGrows, h'.machine.trans h.machine, h'.jobs.trans h.jobs,
      h'.conversions.trans h.conversions, remarks ++ remarks', ?_⟩
    rw [hjournal', hjournal, List.map_append, List.append_assoc]

theorem Adds.adopted (b : Bridge σ) (m : Manager) (h : Handle) (kind : Kind)
    (releaser : Releaser σ) : Adds b (b.adopted m h kind releaser) :=
  ⟨.adopted b m h kind releaser, rfl, rfl, b.conversions_adopted m h kind releaser, [_], rfl⟩

theorem Adds.remark (r : Remark) : (Action.remark r : Action σ Unit).Ensures Adds :=
  fun b => ⟨.note b _, rfl, rfl, (Quiet.remarked b r).conversions, [r], rfl⟩

theorem Adds.abandon (value : TakenValue) : (value.abandon : Action σ Unit).Ensures Adds := by
  rw [TakenValue.abandon]
  split
  · exact remark _
  · exact .pure _

end Bridge

open Bridge

/-- **The converter of a job** moves no clock and touches no memory of the native library, unless a
closed manager keeps it from adopting the value. -/
theorem TakenValue.convert_of_open (value : TakenValue) {b : Bridge σ}
    (hm : (b.manager value.manager).closed = false) (converter : Converter σ) :
    b.Adds (value.convert converter b).2 := by
  rcases hkept : value.kept converter with _ | h
  · cases converter with
    | void => exact (Ensures.bind (.abandon value) (fun _ => .pure _) b : Adds b _)
    | inspect => exact (Ensures.bind (.abandon value) (fun _ => .pure _) b : Adds b _)
    | reject e => exact (Ensures.bind (.abandon value) (fun _ => .fail _) b : Adds b _)
    | adopt kind dispose failure =>
      have hvalue : value.handle = none := hkept
      rw [convert, hvalue]
      exact Std.Refl.refl b
  · obtain ⟨kind, releaser, heq⟩ := convert_of_kept hkept
    rw [heq, bind_of_ok (Resource.adopt_of_open hm h kind releaser)]
    exact .adopted b value.manager h kind releaser

/-! ## Cancel requests -/

/-- An open manager takes the object that tracks a cancel request. -/
theorem Cancellation.adopt_of_open {b : Bridge σ} {m : Manager} (hm : (b.manager m).closed = false)
    (library : Library σ) (h : Handle) :
    Cancellation.adopt library m h b =
      (.ok ⟨b.cancellations.size⟩,
        (b.adopted m h .cancelJob (.native (some .cancelJobDispose)
          (fun h => library.entry.cancelJobDispose (some h)) none)).addCancellation
            ⟨b.next, library⟩) := by
  rw [Cancellation.adopt, bind_of_ok (Resource.adopt_of_open hm h _ _)]
  rfl

end HandleBridge
