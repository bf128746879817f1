import HandleBridge.Proofs.Wrappers

/-!
# Proofs/ExactlyOnce — a release action runs exactly once

`Run.adoptions` lists what was offered to managers in the course of a run: what callers adopted, and
what the native library handed out for contexts, cancel requests and values.  The resources are
these adoptions in order.  A release action runs when its resource is closed, and a resource is
closed by whichever comes first of its own close, the end of its wrapper and the end of its manager,
or at once if the manager was closed already.
-/

namespace HandleBridge

open Bridge

variable {σ α : Type}

/-! ## Adoptions -/

/-- A handle that a manager was offered. -/
structure Adoption where
  manager : Manager
  handle : Handle
  /-- Was the manager open? -/
  accepted : Bool
  deriving DecidableEq, Repr

namespace Operation

/-- The adoption that a call comes to, if any. -/
def adoption? (b : Bridge σ) (op : Operation σ α) : Option Adoption :=
  (op.offered b).map fun o => ⟨o.1, o.2, !(b.manager o.1).closed⟩

theorem adopts_of_adoption {b : Bridge σ} {op : Operation σ α} {a : Adoption}
    (h : op.adoption? b = some a) :
    b.Adopts a.manager a.handle (op.after b) ∧ a.accepted = !(b.manager a.manager).closed := by
  obtain ⟨o, ho, rfl⟩ := Option.map_eq_some_iff.1 h
  have hadopts := op.adopts b
  rw [ho] at hadopts
  exact ⟨hadopts, rfl⟩

theorem size_of_not_adoption {b : Bridge σ} {op : Operation σ α} (h : op.adoption? b = none) :
    (op.after b).resources.size = b.resources.size := by
  have hadopts := op.adopts b
  rwa [Option.map_eq_none_iff.1 h] at hadopts

end Operation

namespace Run

/-- **The adoptions of a run**, in order. -/
def adoptions {b : Bridge σ} : {b' : Bridge σ} → Run b b' → List Adoption
  | _, done => []
  | _, @call _ _ b' _ run op _ => run.adoptions ++ (op.adoption? b').toList

end Run

/-! ## The end of a wrapper -/

theorem Resource.closed_release (b : Bridge σ) (r : Resource) :
    ((r.release b).2.resource r).closed = true := by
  cases hopen : (b.resource r).closed with
  | true => rwa [release_of_closed hopen]
  | false =>
    rw [release_of_open hopen]
    change ((b.settle r).resource r).closed = true
    rw [resource_settle, if_pos rfl]
    rfl

theorem Resource.closed_drop (b : Bridge σ) (r : Resource) :
    ((r.drop b).2.resource r).closed = true := by
  have hrelease := closed_release b r
  rw [drop, Action.bind_of_ok (Action.read_apply _ _), Action.bind_of_ok (Action.attempt_apply _ _)]
  rcases (r.release b).1 with e | _ | _ <;> exact hrelease

namespace Operation

/-- A resource is closed after its wrapper went. -/
theorem closed_of_drops {op : Operation σ α} {b : Bridge σ} {r : Resource} (h : op.Drops b r) :
    ((op.after b).resource r).closed = true := by
  cases op with
  | drop o =>
    cases o with
    | manager m => cases h
    | _ => exact Option.some.inj h ▸ Resource.closed_drop b _
  | _ => exact h.elim

end Operation

theorem Bridge.Wrapping.has_of_drops {b : Bridge σ} (h : b.Wrapping) {op : Operation σ α}
    (known : op.Known b) {r : Resource} (hr : op.Drops b r) : b.Has (.resource r) := by
  cases op with
  | drop o => exact h.has (known o (.head _)) hr
  | _ => exact hr.elim

/-! ## Along a run -/

/-- What is known of the adoptions of a run and of the wrappers that went. -/
structure Ledger (adoptions : List Adoption) (dropped : Resource → Prop) (b : Bridge σ) : Prop where
  wellFormed : b.WellFormed
  wrapping : b.Wrapping
  /-- Resources are adoptions in order. -/
  size : b.resources.size = adoptions.length
  handle : ∀ i a, adoptions[i]? = some a → (b.resource ⟨i⟩).handle = a.handle
  manager : ∀ i a, adoptions[i]? = some a → (b.resource ⟨i⟩).manager = a.manager
  rejected : ∀ i a, adoptions[i]? = some a → a.accepted = false → (b.resource ⟨i⟩).closed = true
  has_dropped : ∀ r, dropped r → b.Has (.resource r)
  closed_dropped : ∀ r, dropped r → (b.resource r).closed = true

namespace Ledger

variable {adoptions : List Adoption} {dropped : Resource → Prop} {b : Bridge σ}

theorem start (native : σ) (env : Environment) :
    Ledger [] (fun _ => False) (.start native env) where
  wellFormed := .start native env
  wrapping := .start native env
  size := rfl
  handle _ _ h := absurd h (Option.some_ne_none _).symm
  manager _ _ h := absurd h (Option.some_ne_none _).symm
  rejected _ _ h := absurd h (Option.some_ne_none _).symm
  has_dropped _ h := h.elim
  closed_dropped _ h := h.elim

theorem has (h : Ledger adoptions dropped b) {i : Nat} {a : Adoption}
    (ha : adoptions[i]? = some a) : b.Has (.resource ⟨i⟩) := by
  obtain ⟨hi, -⟩ := List.getElem?_eq_some_iff.1 ha
  exact Nat.lt_of_lt_of_eq hi h.size.symm

/-- An adoption is an old one, or the one that the call comes to. -/
theorem getElem?_append (h : Ledger adoptions dropped b) {op : Operation σ α} {i : Nat}
    {a : Adoption} (ha : (adoptions ++ (op.adoption? b).toList)[i]? = some a) :
    adoptions[i]? = some a ∨ op.adoption? b = some a ∧ (⟨i⟩ : Resource) = b.next := by
  rcases Nat.lt_or_ge i adoptions.length with hi | hi
  · exact .inl (List.getElem?_append_left hi ▸ ha)
  · rw [List.getElem?_append_right hi] at ha
    rcases hadoption : op.adoption? b with _ | a' <;> rw [hadoption] at ha
    · cases ha
    · obtain ⟨hlt, heq⟩ := List.getElem?_eq_some_iff.1 ha
      have hi' : i = adoptions.length := by
        rw [Option.toList_some, List.length_singleton] at hlt
        omega
      subst hi'
      rw [next, h.size]
      simp only [Nat.sub_self, Option.toList_some, List.getElem_cons_zero] at heq
      exact .inr ⟨congrArg some heq, rfl⟩

theorem step (h : Ledger adoptions dropped b) (op : Operation σ α) (known : op.Known b) :
    Ledger (adoptions ++ (op.adoption? b).toList) (fun r => dropped r ∨ op.Drops b r)
      (op.after b) := by
  obtain ⟨hwf, hendures⟩ := op.wellFormed known h.wellFormed
  refine ⟨hwf, KeepsWrapping.operation op b h.wrapping, ?_, fun i a ha => ?_, fun i a ha => ?_,
    fun i a ha hrejected => ?_, fun r hr => ?_, fun r hr => ?_⟩
  · rw [List.length_append, ← h.size]
    cases hadoption : op.adoption? b with
    | none => exact Operation.size_of_not_adoption hadoption
    | some a => exact (Operation.adopts_of_adoption hadoption).1.size
  · rcases h.getElem?_append ha with ha | ⟨hadoption, hi⟩
    · exact (hendures.handle (h.has ha)).trans (h.handle i a ha)
    · rw [hi]
      exact (Operation.adopts_of_adoption hadoption).1.handle
  · rcases h.getElem?_append ha with ha | ⟨hadoption, hi⟩
    · exact (hendures.manager (h.has ha)).trans (h.manager i a ha)
    · rw [hi]
      exact (Operation.adopts_of_adoption hadoption).1.manager
  · rcases h.getElem?_append ha with ha | ⟨hadoption, hi⟩
    · exact hendures.closed_resource (h.has ha) (h.rejected i a ha hrejected)
    · obtain ⟨hadopts, haccepted⟩ := Operation.adopts_of_adoption hadoption
      rw [hi, hadopts.closed]
      rwa [haccepted, Bool.not_eq_false'] at hrejected
  · refine hendures.has _ ?_
    rcases hr with hr | hr
    · exact h.has_dropped r hr
    · exact h.wrapping.has_of_drops known hr
  · rcases hr with hr | hr
    · exact hendures.closed_resource (h.has_dropped r hr) (h.closed_dropped r hr)
    · exact Operation.closed_of_drops hr

end Ledger

namespace Run

variable {native : σ} {env : Environment} {b : Bridge σ}

theorem ledger (run : Run (.start native env) b) : Ledger run.adoptions run.Drops b := by
  induction run with
  | done => exact .start native env
  | call run op known ih => exact ih.step op known

/-- **A release action runs exactly once, with the handle that was adopted.**  It has run when the
resource is closed and not before, whether it succeeds or fails; it has run if the manager was
closed already, and once the wrapper went.  What was not adopted is not released. -/
theorem releasesOf_adoption (run : Run (.start native env) b) :
    b.resources.size = run.adoptions.length ∧
    (∀ i a, run.adoptions[i]? = some a →
      b.releasesOf ⟨i⟩ = (if (b.resource ⟨i⟩).closed then [a.handle] else []) ∧
      (a.accepted = false ∨ run.Drops ⟨i⟩ → b.releasesOf ⟨i⟩ = [a.handle])) ∧
    ∀ r, run.adoptions.length ≤ r.index → b.releasesOf r = [] := by
  have h := run.ledger
  refine ⟨h.size, fun i a ha => ?_, fun r hr => ?_⟩
  · have hreleased : b.releasesOf ⟨i⟩ = if (b.resource ⟨i⟩).closed then [a.handle] else [] := by
      rw [h.wellFormed.released ⟨i⟩ (h.has ha), due, h.handle i a ha]
    refine ⟨hreleased, fun hgone => ?_⟩
    have hclosed : (b.resource ⟨i⟩).closed = true := by
      rcases hgone with hrejected | hdropped
      · exact h.rejected i a ha hrejected
      · exact h.closed_dropped ⟨i⟩ hdropped
    rw [hreleased, if_pos hclosed]
  · refine h.wellFormed.unborn r fun hr' => Nat.not_lt.2 hr ?_
    exact Nat.lt_of_lt_of_eq hr' h.size

/-- A teardown whose only release fails, and an adoption that comes too late. -/
theorem releasesOf_adoption_of_late :
    ∃ (b : Bridge Unit) (run : Run (.start () []) b),
      run.adoptions = [⟨⟨0⟩, .ofIndex 7, true⟩, ⟨⟨0⟩, .ofIndex 8, false⟩] ∧
        b.releasesOf ⟨0⟩ = [.ofIndex 7] ∧ b.releasesOf ⟨1⟩ = [.ofIndex 8] := by
  let run₁ := (Run.done (b := Bridge.start () [])).call (.createManager 16) (by decide)
  let run₂ := run₁.call (.adopt ⟨0⟩ (.ofIndex 7) .value 0 (some .managerClosed)) (by decide)
  let run₃ := run₂.call (.closeManager ⟨0⟩) (by decide)
  let run := run₃.call (.adopt ⟨0⟩ (.ofIndex 8) .value 0 none) (by decide)
  obtain ⟨-, h, -⟩ := run.releasesOf_adoption
  refine ⟨_, run, by decide, ?_, ?_⟩
  · exact (h 0 ⟨⟨0⟩, .ofIndex 7, true⟩ (by decide)).1.trans (if_pos (by decide))
  · exact (h 1 ⟨⟨0⟩, .ofIndex 8, false⟩ (by decide)).2 (.inl rfl)

end Run

end HandleBridge
