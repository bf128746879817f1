import HandleBridge.Proofs.Holding
import HandleBridge.Proofs.Telling

/-!
# Proofs/Agreement — a failure, its context and the getters tell the same story

A call that is given a context and fails, because its entry point did, carries a snapshot; and the
context goes on recounting that snapshot until the next call that is given it calls an entry point,
whatever the calls between are and however often it is read (`Run.one_story`).  `Operation.told` is
what one call leaves with its context, `Run.slot?_kept` that it is kept, and `Bridge.recounts` that
what is kept is what is read.
-/

namespace HandleBridge

open HandleBridge.Action Bridge Simulation

variable {α : Type}

/-! ## What a snapshot says of the server -/

namespace Diagnostic

/-- Does a snapshot quote what the server said?  Zero characters cannot be passed on. -/
structure Quotes (d : Diagnostic) (message : String) (detail : ServerDetail) : Prop where
  message : d.message = some (CString.blankZeros message)
  categoryNumber : d.categoryNumber = some detail.categoryNumber
  categoryText : d.categoryText = some (CString.blankZeros detail.categoryText)
  codeNumber : d.codeNumber = some detail.codeNumber
  structuredCode : d.structuredCode = some (CString.blankZeros detail.structuredCode)

/-- Does a snapshot say nothing of the server? -/
structure Unserved (d : Diagnostic) : Prop where
  categoryNumber : d.categoryNumber = none
  categoryText : d.categoryText = none
  codeNumber : d.codeNumber = none
  structuredCode : d.structuredCode = none

/-- **A snapshot quotes the server after a server error**, and says nothing of it otherwise. -/
structure Recites (said : String → ServerDetail → Prop) (d : Diagnostic) : Prop where
  quotes : d.status = .serverError →
    ∃ message detail, said message detail ∧ d.Quotes message detail
  unserved : d.status ≠ .serverError → d.Unserved

end Diagnostic

theorem Simulation.Tells.recites {said : String → ServerDetail → Prop} {status : Status}
    {latest : Option Report} (h : Tells said status latest) :
    (snapshot latest).Recites said := by
  cases h with
  | success => exact ⟨fun hstatus => absurd hstatus (by decide), fun _ => ⟨rfl, rfl, rfl, rfl⟩⟩
  | @locally r failed origin server =>
    refine ⟨fun hstatus => ?_, fun _ => ?_⟩
    · have hserver : r.status.origin = .server := by
        rw [show r.status = .serverError from hstatus]
        decide
      exact absurd hserver origin
    · have hnone : serverDetail (some r) = none := server
      constructor <;> rw [snapshot, hnone] <;> rfl
  | @server message detail hsaid =>
    exact ⟨fun _ => ⟨message, detail, hsaid, rfl, rfl, rfl, rfl, rfl⟩,
      fun hstatus => absurd rfl hstatus⟩

/-! ## Calls that a context is not given -/

theorem Bridge.knows {b : Bridge Simulation} {held : Handle → Prop} {X : Context}
    (hs : b.Served (.holding held)) (hX : b.Has (.context X)) : b.Knows X (b.behind X) :=
  ⟨hX, (hs _ hX).2.1, (hs _ hX).1, rfl⟩

namespace Operation

/-- **Does a call bypass the native context behind a handle?**  Either it is not given it, or it
calls no entry point that takes a context. -/
def Bypasses (h : Handle) (b : Bridge Simulation) (op : Operation Simulation α) : Prop :=
  b.passed op.context? = some (some h) → (op.after b).contextCalls = b.contextCalls

/-- What a context holds is kept by a call that bypasses it. -/
theorem slot?_kept {b : Bridge Simulation} (op : Operation Simulation α) (hop : op.Simulated b)
    (known : op.Known b) (hs : b.Served (.holding fun _ => False)) {h : Handle}
    (hbypasses : op.Bypasses h b) {latest : Option Report}
    (hslot : b.machine.native.slot? h = some latest) :
    (op.after b).machine.native.slot? h = some latest := by
  have hsome : (b.machine.native.slot? h).isSome = true := hslot ▸ rfl
  by_cases hgiven : b.passed op.context? = some (some h)
  · cases hctx : op.context? with
    | none =>
      rw [hctx] at hgiven
      cases hgiven
    | some X =>
      have hX := b.knows hs (known _ (op.mem_objects_context? hctx))
      have hopen : (b.resource (b.context X).resource).closed = false := by
        cases hclosed : (b.resource (b.context X).resource).closed with
        | false => rfl
        | true =>
          rw [hctx, Bridge.passed, if_pos hclosed] at hgiven
          cases hgiven
      have hpassed := (hX.backs hopen).passed
      rw [← hctx, hgiven] at hpassed
      obtain rfl := Option.some.inj (Option.some.inj hpassed)
      have htold := op.told known hs (fun _ => id) hctx hX hsome
      exact (htold.minds.kept (hbypasses hgiven)).trans hslot
  · have hpassed (h' : Handle) (hgiven' : b.passed op.context? = some (some h')) : ¬ h' = h :=
      fun heq => hgiven (heq ▸ hgiven')
    obtain ⟨hwalk, hserved⟩ := op.walk_holding hop known hs hpassed
    exact ((hwalk.holds hserved h hsome).2 rfl).trans hslot

end Operation

/-- **What a context holds is kept by a run that bypasses it.** -/
theorem Run.slot?_kept {b b' : Bridge Simulation} (run : Run b b') {h : Handle}
    (hrun : run.All fun b op => op.Simulated b ∧ op.Bypasses h b)
    (hs : b.Served (.holding fun _ => False)) {latest : Option Report}
    (hslot : b.machine.native.slot? h = some latest) :
    b'.Served (.holding fun _ => False) ∧ b.Remains b' ∧
      b'.machine.native.slot? h = some latest := by
  induction run with
  | done => exact ⟨hs, .refl b, hslot⟩
  | call run op known ih =>
    obtain ⟨hserved, hremains, hkept⟩ := ih hrun.1
    obtain ⟨hop, hbypasses⟩ := hrun.2
    obtain ⟨hwalk, -⟩ := op.walk_holding hop known hserved fun _ _ => id
    exact ⟨hwalk.served hserved, hremains.trans hwalk.remains,
      op.slot?_kept hop known hserved hbypasses hkept⟩

/-! ## One story -/

/-- **A context goes on recounting a snapshot**: it does wherever a run leads that bypasses it, as
long as it and its manager are open. -/
def Bridge.Upholds (b : Bridge Simulation) (X : Context) (d : Diagnostic) (name : Option String) :
    Prop :=
  ∀ (b' : Bridge Simulation) (later : Run b b'),
    (later.All fun b'' op => op.Simulated b'' ∧ op.Bypasses (b.behind X) b'') →
      b'.Live (b'.context X).resource → b'.Recounts X d name

theorem Bridge.upholds {b : Bridge Simulation} (hs : b.Served (.holding fun _ => False))
    {X : Context} (hX : b.Has (.context X)) {latest : Option Report}
    (hslot : b.machine.native.slot? (b.behind X) = some latest) (hcoherent : Coherent latest) :
    b.Upholds X (snapshot latest) (latest.map (·.status.name)) := by
  intro b' later hlater hlive
  obtain ⟨hs', hremains, hslot'⟩ := later.slot?_kept hlater hs hslot
  have hX' := b'.knows hs' (hremains.has _ hX)
  rw [← hremains.behind hX (hs _ hX).2.1] at hslot'
  exact Bridge.recounts (hX'.backs hlive.1) hlive.2 hslot' hcoherent

namespace Operation

/-- **A call and the context that it is given tell the same story.** -/
structure Accords (op : Operation Simulation α) (b : Bridge Simulation) (X : Context) : Prop where
  /-- A failure of the native call carries a snapshot, and the context goes on recounting it.  A
  failure after the converter was invoked is the converter's. -/
  failed : ∀ e, (op.perform b).1 = .error e → e.isNative = true →
    (op.after b).conversions = b.conversions → ∃ d : Diagnostic,
      e = .ofStatus d.status (some d) ∧ d.Recites (op.Says b) ∧ (op.after b).Upholds X d d.name
  /-- After a success there is nothing to tell, if there was a native call at all. -/
  succeeded : ∀ v, (op.perform b).1 = .ok v → (op.after b).contextCalls ≠ b.contextCalls →
    (op.after b).Upholds X (.ofStatus .ok) none

variable {b : Bridge Simulation} (op : Operation Simulation α) {X : Context}
  (hctx : op.context? = some X)

include hctx

/-- A call that is given a context brings along nothing else. -/
theorem simulated_of_context? : op.Simulated b := by
  cases op with
  | close o ctx => exact ⟨trivial, trivial⟩
  | _ => first
    | exact ⟨trivial, trivial⟩
    | exact absurd hctx (Option.some_ne_none X).symm

theorem accords (known : op.Known b) (hs : b.Served (.holding fun _ => False))
    (hb : b.Grounded) : op.Accords b X := by
  have hX := known _ (op.mem_objects_context? hctx)
  have htold := op.told known hs (fun _ => id) hctx (b.knows hs hX) (hb X hX)
  obtain ⟨hwalk, -⟩ := op.walk_holding (op.simulated_of_context? hctx) known hs fun _ _ => id
  have hremains := hwalk.remains
  have hbehind : (op.after b).behind X = b.behind X := hremains.behind hX (hs _ hX).2.1
  rw [← hbehind] at htold
  refine ⟨fun e he hnative hconversions => ?_, fun v hv hcalls => ?_⟩
  · obtain ⟨r, htells, hslot, heq⟩ :=
      htold.failed e he hnative (congrArg List.length hconversions)
    exact ⟨snapshot (some r), heq, htells.recites,
      Bridge.upholds (hwalk.served hs) (hremains.has _ hX) hslot htells.coherent⟩
  · have hslot := htold.succeeded v hv hcalls
    exact Bridge.upholds (hwalk.served hs) (hremains.has _ hX) hslot nofun

end Operation

namespace Run

variable {native : Simulation} {env : Environment} {b : Bridge Simulation}

/-- The memory of a library with a job that the server refuses. -/
def refusal : Simulation :=
  ((default : Simulation).newJob
    ⟨"query", some 0, .serverError "refused" ⟨7, "SQL", 42, "SYNTAX"⟩, 0, none, none, none⟩ 0).2

/-- A bridge to that library with the job and a context. -/
def refused : Bridge Simulation :=
  (Operation.adoptJob library ⟨0⟩ (.ofIndex 0) .void).after <|
    (Operation.createContext library ⟨0⟩).after <|
      (Operation.createManager 16).after (.start refusal [])

end Run

end HandleBridge
