import HandleBridge.Proofs.Quiet

/-!
# Proofs/Conversing — what it takes to talk to the native library

A call of an entry point moves the machine, and is noted and remarked on; a conversation with the
native library also writes to scratch memory and charges a region for it.  A relation that these
changes keep (`Bridge.Calling`, `Bridge.Conversing`) holds of every call that asks something and
does no more, whatever the library answers.  No remark in it tells of a release.
-/

namespace HandleBridge

open HandleBridge.Action

variable {σ α : Type}

/-- Does a remark tell of releases that failed? -/
def Remark.ofRelease : Remark → Bool
  | unregisteredReleaseFailed .. | releaseOnDropFailed .. | stragglerReleaseFailed ..
  | managerDropFailed .. => true
  | _ => false

/-- **A relation that a call of an entry point keeps.** -/
structure Bridge.Calling (R : Bridge σ → Bridge σ → Prop) : Prop where
  machine : ∀ b m, R b (b.withMachine m)
  called : ∀ b symbol target, R b (b.note (.called symbol target))
  remarked : ∀ b r, r.ofRelease = false → R b (b.note (.remarked r))

/-- **A relation that a conversation with the native library keeps.** -/
structure Bridge.Conversing (R : Bridge σ → Bridge σ → Prop) : Prop extends Calling R where
  scratch : ∀ b s, R b (b.withScratch s)
  charge : ∀ b m cells, R b (b.modifyManager m (·.charge cells))

namespace Bridge.Calling

variable {R : Bridge σ → Bridge σ → Prop} (hR : Calling R)

include hR

theorem run (f : Machine σ → α × Machine σ) : (Action.run f).Ensures R := fun b => hR.machine b _

theorem remark {r : Remark} (h : r.ofRelease = false) :
    (Action.remark r : Action σ Unit).Ensures R :=
  fun b => hR.remarked b r h

variable [IsPreorder (Bridge σ) R]

theorem slow (symbol : Symbol) (span : Nat) :
    (Action.remark? (Remark.ofNativeCall symbol span) : Action σ Unit).Ensures R := by
  intro b
  rw [remark?_apply, Remark.ofNativeCall]
  split
  · exact hR.remarked b _ rfl
  · exact Std.Refl.refl b

theorem invoke (symbol : Symbol) (target : Option Handle) (call : Call σ α) :
    (HandleBridge.invoke symbol target call).Ensures R :=
  .bind (fun b => hR.called b symbol target) fun _ => hR.run call

theorem ask (symbol : Symbol) (getter : Option Handle → Bool → Call σ α) (ctx : Handle)
    (take : Answer α → Reading) : (HandleBridge.ask symbol getter ctx take).Ensures R :=
  .map (hR.invoke symbol _ _)

theorem readDiagnostic (entry : EntryPoints σ) (ctx : Handle) (status : Status) :
    (HandleBridge.readDiagnostic entry ctx status).Ensures R := by
  refine .bind (.bind (hR.ask _ _ ctx _) fun _ => hR.ask _ _ ctx _) fun r => ?_
  split
  · exact .bind (.bind (hR.ask _ _ ctx _) fun _ => .bind (hR.ask _ _ ctx _) fun _ =>
      .bind (hR.ask _ _ ctx _) fun _ => hR.ask _ _ ctx _) fun _ => .pure _
  · exact .pure _

theorem callWith (c : Context) {call : Option Handle → Action σ (Answer α)}
    (hc : ∀ c, (call c).Ensures R) : (HandleBridge.callWith c call).Ensures R := by
  refine .bind (.read _) fun s => .bind (.read _) fun resource => ?_
  split
  · exact .pure _
  refine .bind (hc _) fun answer => ?_
  split
  · exact .pure _
  · exact .bind (hR.readDiagnostic _ _ _) fun _ => .pure _

theorem callNative (ctx : Option Context) (symbol : Symbol)
    {call : Option Handle → Action σ (Answer α)} (hc : ∀ c, (call c).Ensures R) :
    (HandleBridge.callNative ctx symbol call).Ensures R := by
  have report (start : Nat) (result : Option Status × Except Failure α) :
      (do
        let span := (← .clock) - start
        .remark? (Remark.ofNativeCall symbol span)
        .remark (.nativeCallEnded symbol (Duration.micros span) result.1)
        .ofExcept result.2 : Action σ α).Ensures R :=
    .bind (.read _) fun _ => .bind (hR.slow symbol _) fun _ => .bind (hR.remark rfl) fun _ =>
      .ofExcept _
  refine .bind (hR.remark rfl) fun _ => .bind (.read _) fun start => ?_
  cases ctx with
  | none => exact .bind (.bind (hc none) fun _ => .pure _) (report start)
  | some c => exact .bind (hR.callWith c hc) (report start)

end Bridge.Calling

namespace Bridge.Conversing

variable {R : Bridge σ → Bridge σ → Prop} (hR : Conversing R)

include hR

theorem put (buffer : Buffer) (offset : Nat) (cell : Cell) :
    (Manager.put buffer offset cell : Action σ Unit).Ensures R := fun b => hR.scratch b _

theorem handOut (buffer : Buffer) : (Manager.handOut buffer : Action σ Buffer).Ensures R :=
  fun b => hR.scratch b _

theorem reclaim (b : Bridge σ) (m : Manager) : R b (b.reclaim m) := by
  obtain ⟨s, heq⟩ := b.reclaim_eq m
  exact heq ▸ hR.scratch b s

theorem letGo (b : Bridge σ) (buffer : Buffer) : R b (b.letGo buffer) := by
  obtain ⟨s, heq⟩ := b.letGo_eq buffer
  exact heq ▸ hR.scratch b s

variable [IsPreorder (Bridge σ) R]

/-- Scratch memory changes and a region is charged for it. -/
theorem allocating (m : Manager) (f : Scratch → Except Failure α × Scratch) :
    (m.allocating f : Action σ α).Ensures R := by
  refine .bind (.read _) fun s => ?_
  split
  · exact .fail _
  · refine .bind (.read _) fun before => ?_
    refine .bind (fun b => hR.scratch b _) fun _ => ?_
    exact .bind (fun b => hR.charge b m _) fun _ => .ofExcept _

theorem allocate (m : Manager) (cells : List Cell) : (m.allocate cells : Action σ _).Ensures R :=
  hR.allocating m _

theorem allocateFrom (r : Resource) (cells : List Cell) :
    (r.allocate cells : Action σ _).Ensures R :=
  .bind (.read _) fun s => hR.allocate s.manager cells

omit hR in
theorem withHandle (r : Resource) {f : Handle → Action σ α} (hf : ∀ h, (f h).Ensures R) :
    (r.withHandle f).Ensures R := by
  refine .bind (.read _) fun s => ?_
  split
  · exact .fail _
  · exact hf s.handle

/-! ## Calls of entry points -/

theorem invokeInto (out : Buffer) (cell : α → Cell) (symbol : Symbol) (target : Option Handle)
    (call : Call σ α) : (HandleBridge.invokeInto out cell symbol target call).Ensures R :=
  .bind (hR.invoke symbol target call) fun _ => .bind (hR.put out 0 _) fun _ => .pure _

theorem query (r : Resource) (ctx : Option Context) (symbol : Symbol)
    (call : Option Handle → Option Handle → Call σ (Option Bool)) :
    (r.query ctx symbol call).Ensures R := by
  refine .bind (hR.allocateFrom r _) fun out => withHandle r fun h => ?_
  exact .bind (hR.callNative ctx symbol fun c => hR.invokeInto out _ symbol _ _) fun _ => .pure _

/-! ## Contexts -/

theorem field (c : Context) (symbol : Symbol) (initial : Cell) (cell : α → Cell)
    (getter : EntryPoints σ → Option Handle → Bool → Call σ α) :
    (c.field symbol initial cell getter).Ensures R := by
  refine .bind (.read _) fun s => .bind (hR.allocateFrom _ _) fun out => withHandle _ fun h => ?_
  refine .bind (hR.invokeInto out cell symbol _ _) fun answer => ?_
  split
  · exact .pure _
  · split
    · exact .pure _
    · exact .fail _

theorem diagnostic (c : Context) : (c.diagnostic : Action σ Diagnostic).Ensures R := by
  refine .bind (.read _) fun s => withHandle _ fun h => .bind (hR.invoke _ _ _) fun answer => ?_
  split
  · exact hR.readDiagnostic _ _ _
  · exact .fail _

/-! ## Takes -/

theorem takeNatively (s : Job.State σ) (ctx : Option Context) (h : Handle)
    (valueOut readyOut : Buffer) (mode : TakeMode) :
    (Job.takeNatively s ctx h valueOut readyOut mode).Ensures R := by
  cases mode with
  | blocking => exact .map (hR.callNative ctx _ fun c => hR.invokeInto _ _ _ _ _)
  | bounded limit => exact .map (hR.callNative ctx _ fun c => hR.invokeInto _ _ _ _ _)
  | ifReady =>
    refine .bind (hR.callNative ctx _ fun c => ?_) fun answer => ?_
    · exact .bind (hR.invoke _ _ _) fun _ => .bind (hR.put _ _ _) fun _ =>
        .bind (hR.put _ _ _) fun _ => .pure _
    · exact .pure _

end Bridge.Conversing

end HandleBridge
