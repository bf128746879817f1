import HandleBridge.Proofs.ClosedContexts
import HandleBridge.Proofs.ExactlyOnce
import HandleBridge.Proofs.Refusal
import HandleBridge.Proofs.Reported
import HandleBridge.Proofs.Walks

/-!
# Proofs/ClosingJobs — a job is closed in the library, and disposed of whatever that came to

The close of an open job calls the library's close once and then releases the job, which never
fails, so the caller is told what the library's close told.  A context that is closed keeps the
library's close from being called, but not the release.
-/

namespace HandleBridge

open HandleBridge.Action

variable {σ α : Type}

namespace Bridge

/-! ## What a close changes -/

/-- **Nothing changed but the machine and the journal.** -/
def Speaks (b b' : Bridge σ) : Prop := b' = { b with machine := b'.machine, journal := b'.journal }

instance : IsPreorder (Bridge σ) Speaks where
  refl _ := rfl
  trans b b' b'' h h' := by
    rw [Speaks] at h h' ⊢
    rw [h] at h'
    exact h'

theorem Speaks.calling : Calling (Speaks : Bridge σ → Bridge σ → Prop) where
  machine _ _ := rfl
  called _ _ _ := rfl
  remarked _ _ _ := rfl

/-- **A resource is closed and out of its manager's registry**, and nothing else changed but the
machine and the journal. -/
def Buries (r : Resource) (b b' : Bridge σ) : Prop :=
  b' = { b with
    machine := b'.machine
    managers := b.managers.modify (b.resource r).manager.index (·.withdraw (b.resource r).id)
    resources := b.resources.modify r.index (·.shut)
    journal := b'.journal }

theorem Speaks.buries {b b' : Bridge σ} (h : Speaks b b') (r : Resource) (e : Event) :
    Buries r b ((b'.retire r).note e) := by
  rw [h]
  rfl

theorem Buries.closed {b b' : Bridge σ} {r : Resource} (h : Buries r b b') :
    (b'.resource r).closed = true := by
  have hshut : b'.resource r = (b.settle r).resource r := by rw [h]; rfl
  rw [hshut, resource_settle, if_pos rfl]
  rfl

/-! ## What a close calls -/

/-- A release calls the entry point that disposes of the native object, if there is one. -/
theorem calls_settle (b : Bridge σ) (r : Resource) :
    (b.settle r).calls = b.calls ++ ((b.resource r).releaser.symbol.map fun symbol =>
      (symbol, some (b.resource r).handle)).toList := by
  simp only [calls, settle, farewell, List.filterMap_append]
  cases (b.resource r).releaser.symbol <;> rfl

/-- Was a job closed in the library once and then disposed of once, with nothing called in between
but what reads the context of the close? -/
def ClosesThenDisposes (h : Handle) (c : Option Handle) (reads : List (Symbol × Option Handle))
    (b b' : Bridge σ) : Prop :=
  b'.calls = b.calls ++ ((.jobClose, some h) :: reads ++ [(.jobDispose, some h)]) ∧
    ∀ e ∈ reads, e.1.readsDiagnostic = true ∧ e.2 = c

end Bridge

open Bridge

namespace Job

variable {b : Bridge σ} {j : Job}

/-- The library's close changes no object. -/
theorem speaks_closing (b : Bridge σ) (j : Job) (ctx : Option Context) :
    (closing b j ctx).Ensures Speaks :=
  Conversing.withHandle _ fun _ =>
    Speaks.calling.callNative ctx _ fun _ => Speaks.calling.invoke _ _ _

theorem closing_of_open (hopen : (b.resource (b.job j).resource).closed = false)
    (ctx : Option Context) :
    let h := (b.resource (b.job j).resource).handle
    closing b j ctx b = callNative ctx .jobClose (fun c =>
      invoke .jobClose (some h) ((b.job j).library.entry.jobClose c (some h))) b :=
  Resource.withHandle_of_open hopen _

/-- **The close of an open job** comes to the library's close and the release. -/
theorem close_buries (hopen : (b.resource (b.job j).resource).closed = false)
    (hreleaser : (b.resource (b.job j).resource).releaser = Job.releaser (b.job j).library)
    (ctx : Option Context) :
    let r := (b.job j).resource
    (j.close ctx b).1 = (closing b j ctx b).1 ∧ Buries r b (j.close ctx b).2 ∧
      (j.close ctx b).2.calls =
        (closing b j ctx b).2.calls ++ [(.jobDispose, some (b.resource r).handle)] ∧
      (j.close ctx b).2.releases = b.releases ++ [(r, (b.resource r).handle, none)] := by
  intro r
  have hfailure : (b.resource r).releaser.failure = none := by rw [hreleaser]; rfl
  have hquiet := quiet_closing b j ctx b
  have hresource : (closing b j ctx b).2.resource r = b.resource r := hquiet.resource r
  rw [close_of_open hopen hfailure ctx]
  refine ⟨rfl, (speaks_closing b j ctx b).buries r _, ?_, ?_⟩
  · rw [calls_remarked]
    refine ((closing b j ctx b).2.calls_settle r).trans ?_
    rw [hresource, hreleaser]
    rfl
  · refine (Quiet.remarked _ _).releases.trans (((closing b j ctx b).2.releases_settle r).trans ?_)
    rw [hresource, hquiet.releases, hfailure]

end Job

namespace Run

variable {native : σ} {env : Environment} {b : Bridge σ}

/-- **Closing an open job.**  With no context or an open one the library's close is called once and
then the job is disposed of once, and the caller is told what the library's close told: success if
and only if its status is that.  With a closed context the library's close is not called, the caller
is told so, and the job is disposed of all the same.  Either way the job is closed afterwards and in
no registry, and no other object shows that anything happened, nor do the mark and the name of any
job. -/
theorem job_closing (run : Run (.start native env) b) {j : Job} {ctx : Option Context}
    (known : (Operation.close (.job j) ctx : Operation σ Unit).Known b)
    (hopen : (b.resource (b.job j).resource).closed = false) :
    let r := (b.job j).resource
    let h := (b.resource r).handle
    let result := (j.close ctx b).1
    let b' := (j.close ctx b).2
    (∀ c, b.passed ctx = some c →
      let answer := ((b.job j).library.entry.jobClose c (some h) b.machine).1
      answer.Reported result ∧ (result = .ok () ↔ answer.status.isOk = true) ∧
      ∃ reads, b.ClosesThenDisposes h c reads b' ∧
        (answer.status.isOk = true ∨ c = none → reads = [])) ∧
    (b.passed ctx = none →
      result = .error (.alreadyClosed .context) ∧ b'.calls = b.calls ++ [(.jobDispose, some h)]) ∧
    (b'.resource r).closed = true ∧ (∀ m : Manager, m.contains b' r = false) ∧
    b'.releases = b.releases ++ [(r, h, none)] ∧
    b.Buries r b' := by
  intro r h result b'
  have hserved := (run.walk_any (.start .any native env)).2
  have hreleaser : (b.resource r).releaser = Job.releaser (b.job j).library :=
    (hserved (.job j) (known _ (.head _))).2.2.2
  obtain ⟨hresult, hburies, hcalls, hreleases⟩ := Job.close_buries hopen hreleaser ctx
  have hwellFormed : b'.WellFormed := (run.call _ known).ledger.wellFormed
  let close := fun c => (b.job j).library.entry.jobClose c (some h)
  have hclosing := Job.closing_of_open hopen ctx
  have hasks : b.Asks ctx .jobClose (some h) (j.closing b ctx b).1.toOption.isSome
      (j.closing b ctx b).2 := by
    rw [hclosing]
    exact callNative_calls close (fun _ _ => rfl)
      (fun _ b => b.calls_note (.called .jobClose (some h))) ctx b
  refine ⟨fun c hc => ?_, fun hnone => ?_, hburies.closed, hwellFormed.not_contains hburies.closed,
    hreleases, hburies⟩
  · have hreported : (close c b.machine).1.Reported result := by
      rw [show result = (j.closing b ctx b).1 from hresult, hclosing]
      exact callNative_reports .jobClose close (fun _ _ => rfl) hc
    have hok : result = .ok () ↔ (close c b.machine).1.status.isOk = true :=
      ⟨fun hr => hreported.ok_iff.1 ⟨(), hr⟩, fun hs => (hreported.ok_iff.2 hs).choose_spec⟩
    obtain ⟨reads, hmade, hnothing, hreads⟩ := hasks.passed c hc
    refine ⟨hreported, hok, reads, ⟨?_, hreads⟩, fun h => hnothing (h.imp_left fun hs => ?_)⟩
    · rw [hcalls, hmade, List.append_assoc]
    · rw [← hresult, show (j.close ctx b).1 = .ok () from hok.2 hs]
      rfl
  · obtain ⟨X, rfl, hX⟩ := closed_of_not_passed hnone
    have hkind : (b.resource (b.context X).resource).kind = .context :=
      (hserved (.context X) (known _ (.tail _ (.head _)))).2.2.1
    obtain ⟨_, _, heq⟩ := callNative_of_closed hX .jobClose fun c =>
      invoke .jobClose (some h) (close c)
    refine ⟨?_, by rw [hcalls, hasks.closed hnone]⟩
    rw [show result = (j.closing b (some X) b).1 from hresult, hclosing, ← hkind]
    exact congrArg Prod.fst heq

/-- A library whose close of a job fails. -/
theorem job_closing_of_failed :
    ∃ (b : Bridge Unit) (_ : Run (.start () []) b),
      ((⟨0⟩ : Job).close (some ⟨0⟩) b).1 ≠ .ok () ∧
        (∃ reads, b.ClosesThenDisposes (.ofIndex 7) (some (.ofIndex 6)) reads
          ((⟨0⟩ : Job).close (some ⟨0⟩) b).2) ∧
        (((⟨0⟩ : Job).close (some ⟨0⟩) b).2.resource ⟨1⟩).closed = true := by
  let library : Library Unit := ⟨.inProcess "stubborn", { EntryPoints.idle Unit with
    jobClose := fun _ _ machine => (⟨.clientError, ()⟩, machine) }⟩
  let run₁ := (Run.done (b := Bridge.start () [])).call (.createManager 16) (by decide)
  let run₂ := run₁.call (.adoptContext library ⟨0⟩ (.ofIndex 6)) (by decide)
  let run := run₂.call (.adoptJob library ⟨0⟩ (.ofIndex 7) .void) (by decide)
  obtain ⟨hpassed, -, hclosed, -⟩ := run.job_closing
    (show (Operation.close (.job ⟨0⟩) (some ⟨0⟩)).Known _ by decide) (by decide)
  obtain ⟨-, hok, reads, hcalls, -⟩ := hpassed (some (.ofIndex 6)) (by decide)
  exact ⟨_, run, fun h => absurd (hok.1 h) (by decide), ⟨reads, hcalls⟩, hclosed⟩

/-- A job is not always closed in the library before it is disposed of: not under a context that is
closed. -/
theorem not_always_closed_before :
    ¬ ∀ (b : Bridge Unit) (_ : Run (.start () []) b) (j : Job) (ctx : Option Context),
      (Operation.close (.job j) ctx : Operation Unit Unit).Known b →
        (b.resource (b.job j).resource).closed = false →
          ∃ c reads, b.ClosesThenDisposes (b.resource (b.job j).resource).handle c reads
            (j.close ctx b).2 := by
  intro h
  let run₁ := (Run.done (b := Bridge.start () [])).call (.createManager 16) (by decide)
  let run₂ := run₁.call (.adoptContext default ⟨0⟩ (.ofIndex 6)) (by decide)
  let run₃ := run₂.call (.adoptJob default ⟨0⟩ (.ofIndex 7) .void) (by decide)
  let run := run₃.call (.close (.context ⟨0⟩) none) (by decide)
  obtain ⟨c, reads, hcalls, -⟩ := h _ run ⟨0⟩ (some ⟨0⟩) (by decide) (by decide)
  have hmem := hcalls ▸ List.mem_append_right _ (List.mem_append_left _ (List.mem_cons_self ..))
  exact absurd hmem (by decide)

end Run

end HandleBridge
