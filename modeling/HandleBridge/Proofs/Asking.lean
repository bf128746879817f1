import HandleBridge.Proofs.Carving
import HandleBridge.Proofs.Conversing
import HandleBridge.Proofs.Run

/-!
# Proofs/Asking — what a call comes to that asks, allocates or remembers, and no more

Beside its conversations with the native library such a call may remember a job's name, change what
belongs to the process and make remarks, none of them about a release.  A relation that these
changes keep (`Bridge.Asking`) holds of the call, one lemma for each call from the lemmas of the
calls that it is made of.
-/

namespace HandleBridge

open HandleBridge.Action

variable {σ α : Type}

/-- **A relation that a call keeps which only asks, allocates or remembers.** -/
structure Bridge.Asking (R : Bridge σ → Bridge σ → Prop) : Prop extends Conversing R where
  remember : ∀ b j name, R b (b.modifyJob j (·.remember name))
  process : ∀ b f, R b (b.modifyProcess f)

/-- The handle that a converter puts under management, if there is one. -/
def TakenValue.kept (value : TakenValue) : Converter σ → Option Handle
  | .adopt .. => value.handle
  | _ => none

namespace Bridge.Asking

variable {R : Bridge σ → Bridge σ → Prop} [IsPreorder (Bridge σ) R] (hR : Asking R)

include hR

/-! ## Contexts -/

theorem unsignedField (c : Context) (symbol : Symbol)
    (getter : EntryPoints σ → Option Handle → Bool → Call σ (Option UInt32)) :
    (c.unsignedField symbol getter).Ensures R :=
  .bind (hR.field c _ _ _ _) fun _ => .pure _

theorem signedField (c : Context) (symbol : Symbol)
    (getter : EntryPoints σ → Option Handle → Bool → Call σ (Option Int32)) :
    (c.signedField symbol getter).Ensures R :=
  .bind (hR.field c _ _ _ _) fun _ => .pure _

theorem textField (c : Context) (symbol : Symbol)
    (getter : EntryPoints σ → Option Handle → Bool → Call σ (Option StringOut)) :
    (c.textField symbol getter).Ensures R :=
  .bind (hR.field c _ _ _ _) fun _ => .pure _

/-! ## Jobs -/

theorem lookUpName (j : Job) (ctx : Option Context) :
    (j.lookUpName ctx : Action σ _).Ensures R := by
  refine .bind (.read _) fun s => .bind (hR.allocateFrom _ _) fun out => ?_
  refine .bind (Conversing.withHandle _ fun h =>
    hR.callNative ctx _ fun c => hR.invokeInto out _ _ _ _) fun name => ?_
  exact .bind (fun b => hR.remember b j _) fun _ => .pure _

theorem name (j : Job) (ctx : Option Context) : (j.name ctx : Action σ _).Ensures R := by
  refine .bind (.read _) fun s => ?_
  split
  · exact .pure _
  · exact hR.lookUpName j ctx

theorem label (j : Job) (ctx : Option Context) : (j.label ctx : Action σ _).Ensures R := by
  refine .bind (hR.name j ctx).attempt fun r => ?_
  split <;> exact .pure _

theorem abandon (value : TakenValue) : (value.abandon : Action σ Unit).Ensures R := by
  rw [TakenValue.abandon]
  split
  · exact hR.remark rfl
  · exact .pure _

/-- A converter that puts nothing under management may remark on it. -/
theorem convert {value : TakenValue} {converter : Converter σ}
    (hkept : value.kept converter = none) : (value.convert converter).Ensures R := by
  cases converter with
  | void => exact .bind (hR.abandon value) fun _ => .pure _
  | inspect => exact .bind (hR.abandon value) fun _ => .pure _
  | reject e => exact .bind (hR.abandon value) fun _ => .fail _
  | adopt kind dispose failure =>
    have hvalue : value.handle = none := hkept
    rw [TakenValue.convert, hvalue]
    exact .fail _

/-! ## The process -/

omit [IsPreorder (Bridge σ) R] in
theorem modifyProcess (f : Process σ → Process σ) :
    (Action.update (·.modifyProcess f) : Action σ Unit).Ensures R := fun b => hR.process b f

theorem setUpLogger (library : Library σ) (filters : String) (file : Option String) :
    (Logger.setUp library filters file).Ensures R := by
  refine .bind (.read _) fun p => ?_
  split
  · exact .bind (hR.remark rfl) fun _ => .pure _
  refine .bind ?_ fun _ => .bind (hR.modifyProcess _) fun _ => .pure _
  refine .bind (.ofExcept _) fun _ => .bind (.ofExcept _) fun _ => .bind (hR.invoke _ _ _)
    fun answer => ?_
  split
  · exact hR.remark rfl
  · exact .fail _

theorem setUpLoggerFrom (library : Library σ) (config : Config) :
    (Logger.setUpFrom library config).Ensures R := by
  rw [Logger.setUpFrom]
  split
  · exact .pure _
  · exact hR.setUpLogger library _ _

theorem setUpTracing : (Tracing.setUp : Action σ Bool).Ensures R := by
  refine .bind (.read _) fun p => ?_
  split
  · exact .pure _
  · exact .bind (.read _) fun _ => .bind (hR.modifyProcess _) fun _ =>
      .bind (hR.remark rfl) fun _ => .pure _

theorem loadAnnounced (open? : Loader σ) (path : String) :
    (Library.loadAnnounced open? path).Ensures R :=
  .bind (.ofExcept _) fun _ => .bind (hR.remark rfl) fun _ => .pure _

theorem share (open? : Loader σ) (config : Config) :
    (Library.share open? config).Ensures R := by
  refine .bind (.read _) fun p => ?_
  split
  · exact .pure _
  · exact .bind (.ofExcept _) fun _ => .bind (hR.loadAnnounced _ _) fun _ =>
      .bind (hR.modifyProcess _) fun _ => .pure _

theorem allocateContent (m : Manager) (content : Content) :
    (Operation.allocateContent m content : Action σ _).Ensures R :=
  Content.allocateContent_eq m content ▸ hR.allocating m _

end Bridge.Asking

/-! ## Operations -/

namespace Operation

/-- Does a call ask, allocate or remember, and no more? -/
def asks : {α : Type} → Operation σ α → Bool
  | _, createManager _ => false
  | _, closeManager _ => false
  | _, register _ _ => false
  | _, deregister _ _ => false
  | _, adopt _ _ _ _ _ => false
  | _, createContext _ _ => false
  | _, adoptContext _ _ _ => false
  | _, adoptJob _ _ _ _ => false
  | _, jobTake _ _ => false
  | _, jobTakeFor _ _ _ => false
  | _, jobTakeIfReady _ _ => false
  | _, jobCancelAsync _ _ => false
  | _, close _ _ => false
  | _, drop _ => false
  | _, _ => true

end Operation

/-- **A relation that asking keeps holds of every call that only asks.** -/
theorem Bridge.Asking.operation {R : Bridge σ → Bridge σ → Prop} [IsPreorder (Bridge σ) R]
    (hR : Asking R) (op : Operation σ α) (h : op.asks = true) (b : Bridge σ) :
    R b (op.after b) := by
  cases op with
  | allocate m content => exact Ensures.bind (hR.allocateContent m content) hR.handOut b
  | allocateFrom r cells => exact Ensures.bind (hR.allocateFrom r cells) hR.handOut b
  | write buffer offset cell => exact hR.put buffer offset cell b
  | dropBuffer buffer => exact hR.letGo b buffer
  | handle r => exact Conversing.withHandle r (fun h => .pure h) b
  | returnCode c => exact (Ensures.map (hR.unsignedField c _ _) b : R b _)
  | errorType c => exact (Ensures.map (hR.unsignedField c _ _) b : R b _)
  | errorName c => exact hR.textField c _ _ b
  | errorMessage c => exact hR.textField c _ _ b
  | categoryNumber c => exact hR.signedField c _ _ b
  | categoryText c => exact hR.textField c _ _ b
  | codeNumber c => exact hR.signedField c _ _ b
  | structuredCode c => exact hR.textField c _ _ b
  | diagnostic c => exact hR.diagnostic c b
  | jobName j ctx => exact hR.name j ctx b
  | jobWait j ctx limit =>
    exact (Ensures.bind (.read _) (fun _ => hR.query _ ctx _ _) b : R b _)
  | jobIsDone j ctx => exact (Ensures.bind (.read _) (fun _ => hR.query _ ctx _ _) b : R b _)
  | jobCancel j ctx => exact (Ensures.bind (.read _) (fun _ => hR.query _ ctx _ _) b : R b _)
  | jobCancelFor j ctx limit =>
    exact (Ensures.bind (.read _) (fun _ => hR.query _ ctx _ _) b : R b _)
  | cancellationWait c ctx limit =>
    exact (Ensures.bind (.read _) (fun _ => hR.query _ ctx _ _) b : R b _)
  | cancellationIsDone c ctx =>
    exact (Ensures.bind (.read _) (fun _ => hR.query _ ctx _ _) b : R b _)
  | outside change => exact hR.run _ b
  | setUpLogger library filters file => exact hR.setUpLogger library filters file b
  | setUpLoggerFrom library config => exact hR.setUpLoggerFrom library config b
  | setUpTracing => exact hR.setUpTracing b
  | load open? path => exact hR.loadAnnounced open? path b
  | share open? config => exact hR.share open? config b
  | _ => exact Bool.noConfusion h

end HandleBridge
