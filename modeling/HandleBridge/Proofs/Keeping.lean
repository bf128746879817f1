import HandleBridge.Proofs.Mirrored
import HandleBridge.Proofs.Routine

/-!
# Proofs/Keeping — what calls keep that do not ask for the logger

Under a guise that hides nothing a bridge matches itself, and to be mirrored is to keep what holds
all along.  Two things are kept by every call that does not ask for the logger: the process's flag,
whatever the libraries do, and the settings of the simulated library's logger, which no entry point
touches but the logger's own.
-/

namespace HandleBridge

open HandleBridge.Action

variable {σ α : Type}

/-! ## Guises that hide nothing -/

/-- A guise that hides nothing: what holds of the machine and of the logger's flag all along. -/
def Guise.keeping (holds : Machine σ → Prop)
    (hclock : ∀ m clock, holds m → holds { m with clock }) (latch : Bool → Prop) : Guise σ where
  machine := id
  holds := holds
  latch := latch
  given _ := True
  said := []
  said' := []
  machine_clock _ _ := rfl
  holds_clock := hclock

namespace Guise

/-- The guise under which the flag keeps its value. -/
def flagged (σ : Type) (set : Bool) : Guise σ := keeping (fun _ => True) (fun _ _ => id) (· = set)

theorem covers_flagged (set : Bool) (e : EntryPoints σ) : (flagged σ set).Covers e := by
  constructor <;> intros <;> exact fun _ _ => ⟨rfl, trivial⟩

theorem keeps_flagged (set : Bool) (f : Machine σ → Machine σ) : (flagged σ set).Keeps f :=
  fun _ _ => ⟨rfl, trivial⟩

/-- The guise under which the settings of the simulated library's logger stay as well. -/
def settled (settings : Option Simulation.LoggerSettings) (set : Bool) : Guise Simulation :=
  keeping (·.native.logger = settings) (fun _ _ => id) (· = set)

end Guise

namespace Bridge

/-- A bridge matches itself under a guise that hides nothing. -/
theorem matches_keeping {b : Bridge σ} {holds : Machine σ → Prop}
    {hclock : ∀ m clock, holds m → holds { m with clock }} {latch : Bool → Prop}
    (hholds : holds b.machine) (hlatch : latch b.process.loggerInitialized) :
    b.Matches (.keeping holds hclock latch) b :=
  ⟨rfl, hholds, hlatch, rfl, fun _ => rfl, rfl, rfl, rfl, rfl, rfl, _, rfl, rfl⟩

/-- Everything may be passed for a context. -/
theorem grants_keeping {b : Bridge σ} {holds : Machine σ → Prop}
    {hclock : ∀ m clock, holds m → holds { m with clock }} {latch : Bool → Prop}
    {ctx : Option Context}
    (hserved : b.Served (Guise.keeping holds hclock latch).terms)
    (hctx : ∀ c, ctx = some c → b.Has (.context c)) :
    b.Grants (Guise.keeping holds hclock latch).terms
      (Guise.keeping holds hclock latch).given ctx :=
  ⟨hserved, fun library _ => Guise.moves _ library.entry, hctx, fun _ _ => trivial⟩

end Bridge

namespace Operation

/-- Does a call ask for the logger to be initialized? -/
def logs : {α : Type} → Operation σ α → Bool
  | _, setUpLogger _ _ _ | _, setUpLoggerFrom _ _ => true
  | _, _ => false

/-- **What is true of the machine and of the flag all along stays true** after a call that does not
ask for the logger. -/
theorem kept {op : Operation σ α} {b : Bridge σ} {holds : Machine σ → Prop}
    {hclock : ∀ m clock, holds m → holds { m with clock }} {latch : Bool → Prop}
    (known : op.Known b) (hop : op.Admits (.keeping holds hclock latch))
    (hserved : b.Served (Guise.keeping holds hclock latch).terms) (hholds : holds b.machine)
    (hlatch : latch b.process.loggerInitialized) :
    holds (op.after b).machine ∧ latch (op.after b).process.loggerInitialized := by
  have hmatches := ((op.mirrors (.same op) known hop
    (Bridge.grants_keeping hserved fun _ hc => known _ (op.mem_objects_context? hc))
    (Bridge.grants_keeping hserved fun _ hc => known _ (op.mem_objects_reads hc))).abreast b b
      (.refl b) (Bridge.matches_keeping hholds hlatch)).bridge
  exact ⟨hmatches.holds, hmatches.latch⟩

/-- **Only the logger's own calls set the flag**, whatever the libraries do. -/
theorem loggerInitialized_after {op : Operation σ α} {b : Bridge σ} (known : op.Known b)
    (hop : op.logs = false) (hserved : b.Served .any) :
    (op.after b).process.loggerInitialized = b.process.loggerInitialized := by
  have hconverts (converter : Converter σ) :
      (Guise.flagged σ b.process.loggerInitialized).terms.Converts converter := by
    cases converter <;> first | exact trivial | exact fun _ => Guise.keeps_flagged _ _
  have hadmits : op.Admits (.flagged σ b.process.loggerInitialized) := by
    cases op with
    | createContext library | adoptContext library => exact Guise.covers_flagged _ _
    | adoptJob library m h converter => exact ⟨Guise.covers_flagged _ _, hconverts converter⟩
    | outside change => exact Guise.keeps_flagged _ _
    | setUpLogger | setUpLoggerFrom => cases hop
    | _ => exact trivial
  refine (op.kept known hadmits ?_ trivial rfl).2
  exact hserved.mono (fun _ _ => Guise.covers_flagged _ _) fun _ _ _ => Guise.keeps_flagged _ _

end Operation

/-! ## The simulated library -/

namespace Simulation

/-- Does a call leave the settings of the logger alone? -/
def Aloof (call : Call Simulation α) : Prop :=
  ∀ m, (call m).2.native.logger = m.native.logger

section Aloof

variable (settings : Option LoggerSettings) (set : Bool)

theorem Aloof.unseen {call : Call Simulation α} (h : Aloof call) :
    (Guise.settled settings set).Unseen call := fun m hm => ⟨rfl, (h m).trans hm⟩

theorem Aloof.keeps {f : Machine Simulation → Machine Simulation}
    (h : ∀ m, (f m).native.logger = m.native.logger) : (Guise.settled settings set).Keeps f :=
  fun m hm => ⟨rfl, (h m).trans hm⟩

end Aloof

end Simulation

/-- The settings of the logger are as they were. -/
def Machine.Aloof (m m' : Machine Simulation) : Prop := m'.native.logger = m.native.logger

namespace Machine.Aloof

instance : IsPreorder (Machine Simulation) Aloof where
  refl _ := rfl
  trans _ _ _ h h' := Eq.trans h' h

theorem routine : Routine (fun _ => True) Aloof where
  clock _ _ := rfl
  report _ c _ _ := by cases c <;> rfl
  setJob _ _ _ := rfl
  newContext _ := rfl
  newCancelJob _ _ := rfl
  newValue _ _ := rfl
  count _ probe := by cases probe <;> rfl

/-- **No entry point but the logger's own touches the settings.** -/
theorem moves (append : Simulation.Appending) :
    (Simulation.entryPoints append).Moves (fun _ => True)
      fun symbol m m' => symbol ≠ .loggerInit → m.Aloof m' := by
  refine routine.moves ?_ append ?_
  · exact fun _ _ _ h _ => h
  · exact fun _ _ _ h => absurd rfl h

end Machine.Aloof

/-- The guise covers all that does not ask for the logger. -/
theorem Simulation.covers_settled (settings : Option LoggerSettings) (set : Bool)
    (append : Appending) : (Guise.settled settings set).Covers (entryPoints append) := by
  have hmoves := Machine.Aloof.moves append
  have hunseen {β : Type} {call : Call Simulation β}
      (h : ∀ m : Machine Simulation, m.Aloof (call m).2) :
      (Guise.settled settings set).Unseen call := Aloof.unseen settings set h
  exact {
    contextCreate := fun out => hunseen fun m => hmoves.contextCreate out m (by decide)
    contextReturnCode := fun c _ out =>
      hunseen fun m => hmoves.contextReturnCode c out m (by decide)
    contextErrorName := fun c _ out => hunseen fun m => hmoves.contextErrorName c out m (by decide)
    contextErrorType := fun c _ out => hunseen fun m => hmoves.contextErrorType c out m (by decide)
    contextErrorMessage := fun c _ out =>
      hunseen fun m => hmoves.contextErrorMessage c out m (by decide)
    contextCategoryNumber := fun c _ out =>
      hunseen fun m => hmoves.contextCategoryNumber c out m (by decide)
    contextCategoryText := fun c _ out =>
      hunseen fun m => hmoves.contextCategoryText c out m (by decide)
    contextCodeNumber := fun c _ out =>
      hunseen fun m => hmoves.contextCodeNumber c out m (by decide)
    contextStructuredCode := fun c _ out =>
      hunseen fun m => hmoves.contextStructuredCode c out m (by decide)
    contextDispose := fun h =>
      Aloof.keeps settings set (Machine.Aloof.routine.contextDispose h)
    cancelJobWait := fun c hc h limit out =>
      hunseen fun m => hmoves.cancelJobWait c hc h limit out m (by decide)
    cancelJobIsDone := fun c hc h out =>
      hunseen fun m => hmoves.cancelJobIsDone c hc h out m (by decide)
    cancelJobDispose := fun h =>
      Aloof.keeps settings set (Machine.Aloof.routine.cancelJobDispose h)
    jobName := fun c hc h out => hunseen fun m => hmoves.jobName c hc h out m (by decide)
    jobWait := fun c hc h limit out =>
      hunseen fun m => hmoves.jobWait c hc h limit out m (by decide)
    jobIsDone := fun c hc h out => hunseen fun m => hmoves.jobIsDone c hc h out m (by decide)
    jobTake := fun c hc h out => hunseen fun m => hmoves.jobTake c hc h out m (by decide)
    jobTakeFor := fun c hc h limit out =>
      hunseen fun m => hmoves.jobTakeFor c hc h limit out m (by decide)
    jobTakeIfReady := fun c hc h out valueOut =>
      hunseen fun m => hmoves.jobTakeIfReady c hc h out valueOut m (by decide)
    jobCancel := fun c hc h out => hunseen fun m => hmoves.jobCancel c hc h out m (by decide)
    jobCancelFor := fun c hc h limit out =>
      hunseen fun m => hmoves.jobCancelFor c hc h limit out m (by decide)
    jobCancelAsync := fun c hc h out =>
      hunseen fun m => hmoves.jobCancelAsync c hc h out m (by decide)
    jobClose := fun c hc h => hunseen fun m => hmoves.jobClose c hc h m (by decide)
    jobDispose := fun h => Aloof.keeps settings set (Machine.Aloof.routine.jobDispose h) }

end HandleBridge
