import HandleBridge.Proofs.ClosedContexts
import HandleBridge.Proofs.Snapshots
import HandleBridge.Proofs.Statuses
import HandleBridge.Proofs.Steps

/-!
# Proofs/Told — a call and the context that it was given tell the same

A call that is given a context of the simulated library calls entry points that take a context, or
none.  If it calls none, the context holds what it held.  If it calls some and gives a
result, the context holds nothing; and if it fails because its entry point did, the failure carries
the snapshot of what the context holds.  `Told` says so of a call; it holds of a call made of two if
it holds of both (`Told.bind`), and of the call of an entry point (`callNative_told`).
-/

namespace HandleBridge

open HandleBridge.Action Bridge Simulation

variable {σ α β : Type}

/-! ## Calls of entry points that take a context -/

/-- Does an entry point take a context? -/
def Symbol.takesContext : Symbol → Bool
  | cancelJobWait | cancelJobIsDone | jobName | jobWait | jobIsDone | jobTake | jobTakeFor
  | jobTakeIfReady | jobCancel | jobCancelFor | jobCancelAsync | jobClose => true
  | _ => false

/-- Is an event a call of an entry point that takes a context? -/
def Event.takesContext : Event → Bool
  | called symbol _ => symbol.takesContext
  | _ => false

/-- The number of calls so far of entry points that take a context. -/
def Bridge.contextCalls (b : Bridge σ) : Nat := b.journal.countP Event.takesContext

theorem Bridge.contextCalls_note (b : Bridge σ) (e : Event) :
    (b.note e).contextCalls = b.contextCalls + if e.takesContext then 1 else 0 := by
  simp [contextCalls, note, List.countP_append, List.countP_cons]

/-! ## Changes that are none of a context's -/

namespace Bridge

/-- **Nothing happens that a context could tell of.** -/
structure Idles (b b' : Bridge Simulation) : Prop where
  machine : b'.machine = b.machine
  calls : b'.contextCalls = b.contextCalls
  conversions : b'.conversions = b.conversions

/-- What happens is none of a context's: no call of an entry point that takes one, and nothing to
the contexts and the jobs of the library. -/
structure Shows (b b' : Bridge Simulation) : Prop where
  contexts : b'.machine.native.contexts = b.machine.native.contexts
  jobs : b'.machine.native.jobs = b.machine.native.jobs
  calls : b'.contextCalls = b.contextCalls
  conversions : b'.conversions = b.conversions

/-- **What a context holds is left as it was** unless an entry point was called that takes one.
Calls and conversions are never taken back, and no native job is lost. -/
structure Minds (h : Handle) (b b' : Bridge Simulation) : Prop where
  calls : b.contextCalls ≤ b'.contextCalls
  conversions : b.conversions.length ≤ b'.conversions.length
  jobs : b'.machine.native.jobs.length = b.machine.native.jobs.length
  kept : b'.contextCalls = b.contextCalls →
    b'.machine.native.slot? h = b.machine.native.slot? h

variable {h : Handle} {b b' b'' : Bridge Simulation}

instance : IsPreorder (Bridge Simulation) Idles where
  refl _ := ⟨rfl, rfl, rfl⟩
  trans _ _ _ e e' := ⟨e'.machine.trans e.machine, e'.calls.trans e.calls,
    e'.conversions.trans e.conversions⟩

theorem Idles.tell (b : Bridge Simulation) (r : Option Remark) : b.Idles (b.tell r) := by
  cases r with
  | none => exact ⟨rfl, rfl, rfl⟩
  | some r => exact ⟨rfl, contextCalls_note b _, (Quiet.remarked b r).conversions⟩

theorem Idles.remarked (b : Bridge Simulation) (r : Remark) : b.Idles (b.note (.remarked r)) :=
  tell b (some r)

theorem Idles.shows (e : b.Idles b') : b.Shows b' := by
  refine ⟨?_, ?_, e.calls, e.conversions⟩ <;> rw [e.machine]

/-- The release of a job counts its disposal and no more. -/
theorem Shows.retire {r : Resource}
    (hreleaser : (b.resource r).releaser = Job.releaser Simulation.library) :
    b.Shows (b.retire r) := by
  have hmachine : (b.retire r).machine = jobDispose (some (b.resource r).handle) b.machine := by
    change (b.resource r).releaser.run (b.resource r).handle b.machine = _
    rw [hreleaser]
    rfl
  have hfarewell : (b.farewell r).countP Event.takesContext = 0 := by
    rw [farewell, hreleaser]
    rfl
  obtain ⟨probe, hnative⟩ := jobDispose_native (some (b.resource r).handle) b.machine
  rw [← hmachine] at hnative
  refine ⟨?_, ?_, ?_, b.conversions_settle r⟩
  · rw [hnative]
    cases probe <;> rfl
  · rw [hnative]
    cases probe <;> rfl
  · change (b.journal ++ b.farewell r).countP Event.takesContext = _
    rw [List.countP_append, hfarewell]
    rfl

namespace Minds

theorem of_shows (e : b.Shows b') : b.Minds h b' where
  calls := Nat.le_of_eq e.calls.symm
  conversions := Nat.le_of_eq (congrArg List.length e.conversions).symm
  jobs := congrArg List.length e.jobs
  kept _ := slot?_congr e.contexts h

theorem trans (e : b.Minds h b') (e' : b'.Minds h b'') : b.Minds h b'' where
  calls := Nat.le_trans e.calls e'.calls
  conversions := Nat.le_trans e.conversions e'.conversions
  jobs := e'.jobs.trans e.jobs
  kept hcalls := by
    have hfirst : b'.contextCalls = b.contextCalls :=
      Nat.le_antisymm (hcalls ▸ e'.calls) e.calls
    exact (e'.kept (hcalls.trans hfirst.symm)).trans (e.kept hfirst)

end Minds

end Bridge

/-! ## Calls that tell what their context tells -/

/-- **A call and the context behind a handle tell the same.** -/
structure Told (said : String → ServerDetail → Prop) (h : Handle) (b : Bridge Simulation)
    (y : Except Failure α × Bridge Simulation) : Prop where
  minds : b.Minds h y.2
  succeeded : ∀ v, y.1 = .ok v → y.2.contextCalls ≠ b.contextCalls →
    y.2.machine.native.slot? h = some none
  failed : ∀ e, y.1 = .error e → e.isNative = true → y.2.conversions.length = b.conversions.length →
    ∃ r, Tells said r.status (some r) ∧ y.2.machine.native.slot? h = some (some r) ∧
      e = .ofStatus r.status (some (snapshot (some r)))

namespace Told

variable {said : String → ServerDetail → Prop} {h : Handle} {b b₁ : Bridge Simulation}

/-- A call that does nothing that a context could tell of. -/
theorem idle {y : Except Failure α × Bridge Simulation} (e : b.Idles y.2)
    (hy : ∀ e, y.1 = .error e → e.isNative = false) : Told said h b y where
  minds := .of_shows e.shows
  succeeded _ _ hcalls := absurd e.calls hcalls
  failed e he hnative := absurd hnative (Bool.eq_false_iff.1 (hy e he))

theorem pure (a : α) (b : Bridge Simulation) :
    Told said h b ((Pure.pure a : Action Simulation α) b) :=
  idle ⟨rfl, rfl, rfl⟩ fun _ he => by cases he

theorem fail {e : Failure} (he : e.isNative = false) (b : Bridge Simulation) :
    Told said h b ((Action.fail e : Action Simulation α) b) :=
  idle ⟨rfl, rfl, rfl⟩ fun _ he' => by cases he'; exact he

/-- What was idle before a call does not matter. -/
theorem after {y : Except Failure α × Bridge Simulation} (e : b.Idles b₁) (hy : Told said h b₁ y) :
    Told said h b y where
  minds := (Minds.of_shows e.shows).trans hy.minds
  succeeded v hv hcalls := hy.succeeded v hv (by rwa [e.calls])
  failed failure hfailure hnative hconversions := by
    rw [← e.conversions] at hconversions
    exact hy.failed failure hfailure hnative hconversions

/-- What is none of a context's after a call does not matter. -/
theorem before {r : Except Failure α} {b₂ : Bridge Simulation} (hy : Told said h b (r, b₁))
    (e : b₁.Shows b₂) : Told said h b (r, b₂) where
  minds := hy.minds.trans (.of_shows e)
  succeeded v hv hcalls := by
    rw [e.calls] at hcalls
    exact (slot?_congr e.contexts h).trans (hy.succeeded v hv hcalls)
  failed failure hfailure hnative hconversions := by
    rw [e.conversions] at hconversions
    obtain ⟨r, htells, hslot, heq⟩ := hy.failed failure hfailure hnative hconversions
    exact ⟨r, htells, (slot?_congr e.contexts h).trans hslot, heq⟩

theorem mono {said' : String → ServerDetail → Prop} {y : Except Failure α × Bridge Simulation}
    (hy : Told said h b y) (hsaid : ∀ message detail, said message detail → said' message detail) :
    Told said' h b y where
  minds := hy.minds
  succeeded := hy.succeeded
  failed failure hfailure hnative hconversions := by
    obtain ⟨r, htells, hrest⟩ := hy.failed failure hfailure hnative hconversions
    exact ⟨r, htells.mono hsaid, hrest⟩

/-- A call made of two tells what its context tells if both parts do.  The context that there was
before the first is still there after it. -/
theorem bind {x : Action Simulation α} {f : α → Action Simulation β}
    (hslot : (b.machine.native.slot? h).isSome = true) (hx : Told said h b (x b))
    (hf : ∀ a b₁, x b = (.ok a, b₁) → (b₁.machine.native.slot? h).isSome = true →
      Told said h b₁ (f a b₁)) : Told said h b ((x >>= f) b) := by
  rcases hxb : x b with ⟨e | a, b₁⟩
  · rw [bind_of_error hxb]
    rw [hxb] at hx
    refine ⟨hx.minds, nofun, fun e' he' => ?_⟩
    cases he'
    exact hx.failed e rfl
  · rw [bind_of_ok hxb]
    rw [hxb] at hx
    have hslot₁ : (b₁.machine.native.slot? h).isSome = true := by
      by_cases hcalls : b₁.contextCalls = b.contextCalls
      · rw [show b₁.machine.native.slot? h = _ from hx.minds.kept hcalls, hslot]
      · rw [show b₁.machine.native.slot? h = _ from hx.succeeded a rfl hcalls]
        rfl
    have hfa := hf a b₁ hxb hslot₁
    refine ⟨hx.minds.trans hfa.minds, fun v hv hcalls => ?_, fun e he hnative hlength => ?_⟩
    · by_cases hlater : (f a b₁).2.contextCalls = b₁.contextCalls
      · rw [hfa.minds.kept hlater]
        exact hx.succeeded a rfl (hlater ▸ hcalls)
      · exact hfa.succeeded v hv hlater
    · refine hfa.failed e he hnative (Nat.le_antisymm ?_ hfa.minds.conversions)
      exact Nat.le_trans (Nat.le_of_eq hlength) hx.minds.conversions

theorem map {x : Action Simulation α} (hslot : (b.machine.native.slot? h).isSome = true)
    (hx : Told said h b (x b)) (f : α → β) : Told said h b ((f <$> x) b) :=
  bind hslot hx fun a b₁ _ _ => pure (f a) b₁

/-- Memory is taken first. -/
theorem allocate {m : Manager} {cells : List Cell} {f : Buffer → Action Simulation α}
    (hf : ∀ out b₁, Quiet b b₁ → b.Idles b₁ → Told said h b₁ (f out b₁)) :
    Told said h b ((m.allocate cells >>= f) b) := by
  cases hm : (b.manager m).closed with
  | true =>
    rw [bind_of_error (Manager.allocate_of_closed hm cells)]
    exact fail rfl b
  | false =>
    obtain ⟨out, scratch, n, halloc⟩ := Manager.allocate_of_open hm cells
    rw [bind_of_ok halloc]
    have e : b.Idles (b.spend m scratch n) := ⟨rfl, rfl, rfl⟩
    exact after e (hf out _ (.spend b m scratch n) e)

theorem allocateFrom {r : Resource} {cells : List Cell} {f : Buffer → Action Simulation α}
    (hf : ∀ out b₁, Quiet b b₁ → b.Idles b₁ → Told said h b₁ (f out b₁)) :
    Told said h b ((r.allocate cells >>= f) b) := allocate hf

theorem withHandle {r : Resource} {f : Handle → Action Simulation α}
    (hf : (b.resource r).closed = false → Told said h b (f (b.resource r).handle b)) :
    Told said h b (r.withHandle f b) := by
  cases hr : (b.resource r).closed with
  | true =>
    rw [Resource.withHandle_of_closed hr]
    exact fail rfl b
  | false =>
    rw [Resource.withHandle_of_open hr]
    exact hf hr

end Told

/-! ## Contexts that calls are given -/

/-- **A context of the simulated library**, whether or not it is open, and the handle of what it
wraps. -/
structure Bridge.Knows (b : Bridge Simulation) (X : Context) (h : Handle) : Prop where
  has : b.Has (.context X)
  made : b.Has (.resource (b.context X).resource)
  library : (b.context X).library = Simulation.library
  handle : (b.resource (b.context X).resource).handle = h

namespace Bridge.Knows

variable {b b' : Bridge Simulation} {X : Context} {h : Handle} (hX : b.Knows X h)

include hX

theorem backs (hopen : (b.resource (b.context X).resource).closed = false) : b.Backs X h :=
  ⟨hX.has, hopen, hX.library, hX.handle⟩

theorem grows (hgrows : b.Grows b') (hcontexts : b'.contexts = b.contexts) : b'.Knows X h := by
  have hcontext : b'.context X = b.context X := congrArg (·.get X.index) hcontexts
  refine ⟨hgrows.has _ hX.has, ?_, ?_, ?_⟩ <;> rw [hcontext]
  · exact hgrows.has _ hX.made
  · exact hX.library
  · rw [hgrows.resource _ hX.made, hX.handle]

theorem quiet (hquiet : Quiet b b') : b'.Knows X h := hX.grows (.quiet hquiet) hquiet.contexts

end Bridge.Knows

/-! ## Calls of entry points -/

/-- Is a call that of an entry point that takes a context, but for scratch memory? -/
structure Offers (call : Option Handle → Action Simulation (Answer α))
    (native : Option Handle → Call Simulation α) : Prop where
  invokes : Invokes call native
  calls : ∀ c b, b.contextCalls < (call c b).2.contextCalls
  quiet : ∀ c, (call c).Ensures Quiet

section Offers

variable {symbol : Symbol} (hsymbol : symbol.takesContext = true) (target : Option Handle)
  (native : Option Handle → Call Simulation α)

include hsymbol

theorem offers_invoke : Offers (fun c => invoke symbol target (native c)) native where
  invokes _ _ := ⟨rfl, rfl⟩
  calls c b := by
    have hcalls := b.contextCalls_note (.called symbol target)
    rw [Event.takesContext, if_pos hsymbol] at hcalls
    exact Nat.lt_of_lt_of_eq (Nat.lt_succ_self _) hcalls.symm
  quiet _ := Quiet.invoke _ _ _

theorem offers_invokeInto (out : Buffer) (cell : α → Cell) :
    Offers (fun c => invokeInto out cell symbol target (native c)) native where
  invokes := invokes_invokeInto out cell symbol target native
  calls := (offers_invoke hsymbol target native).calls
  quiet _ := Quiet.invokeInto _ _ _ _ _

end Offers

/-- No call is taken back. -/
def Bridge.Counts (b b' : Bridge Simulation) : Prop := b.contextCalls ≤ b'.contextCalls

instance : IsPreorder (Bridge Simulation) Counts where
  refl _ := Nat.le_refl _
  trans _ _ _ := Nat.le_trans

section Native

variable {said : String → ServerDetail → Prop} {h : Handle} {X : Context} {b : Bridge Simulation}

/-- The snapshot that is taken of a context tells what the context holds. -/
theorem Bridge.Backs.diagnose_apply (hX : b.Backs X h) {b₁ : Bridge Simulation}
    {latest : Option Report} (hslot : b₁.machine.native.slot? h = some latest)
    (hcoherent : Coherent latest) :
    ∃ b₂, b.diagnose (latestStatus latest) (some X) b₁ = (.ok (some (snapshot latest)), b₂) ∧
      b₂.machine = b₁.machine ∧ b₁.Counts b₂ ∧ Quiet b₁ b₂ := by
  have hread := readDiagnostic_apply hslot hcoherent
  rw [Bridge.diagnose, hX.library, hX.handle, map_apply, hread]
  refine ⟨_, rfl, ?_, ?_, Quiet.asking.readDiagnostic _ _ _ _⟩
  · exact readDiagnostic_ensures (R := Rests) (fun _ _ _ => rfl) h _ b₁
  · refine readDiagnostic_ensures (R := Counts) (fun b symbol target => ?_) h _ b₁
    exact Nat.le.intro (b.contextCalls_note _).symm

/-- With a closed context there is no call. -/
theorem callNative_idles (hclosed : (b.resource (b.context X).resource).closed = true)
    (symbol : Symbol) (call : Option Handle → Action Simulation (Answer α)) :
    ∃ b', callNative (some X) symbol call b =
      (.error (.alreadyClosed (b.resource (b.context X).resource).kind), b') ∧ b.Idles b' := by
  obtain ⟨slow, ended, heq⟩ := callNative_of_closed hclosed symbol call
  refine ⟨_, heq, ?_⟩
  exact IsTrans.trans _ _ _ (Idles.remarked b _) <|
    IsTrans.trans _ _ _ (Idles.tell _ slow) (Idles.remarked _ ended)

/-- What is told once an entry point was called, whatever comes after it. -/
theorem Told.called {b' : Bridge Simulation} {result : Except Failure α} {latest : Option Report}
    (hcalls : b.contextCalls < b'.contextCalls) (hconversions : b'.conversions = b.conversions)
    (hjobs : b'.machine.native.jobs.length = b.machine.native.jobs.length)
    (hslot : b'.machine.native.slot? h = some latest) (hok : ∀ v, result = .ok v → latest = none)
    (hfailed : ∀ e, result = .error e → ∃ r, latest = some r ∧ Tells said r.status latest ∧
      e = .ofStatus r.status (some (snapshot latest))) : Told said h b (result, b') where
  minds := ⟨Nat.le_of_lt hcalls, Nat.le_of_eq (congrArg List.length hconversions).symm, hjobs,
    fun hno => absurd hno (Nat.ne_of_gt hcalls)⟩
  succeeded v hv _ := hok v hv ▸ hslot
  failed e he _ _ := by
    obtain ⟨r, rfl, htells, heq⟩ := hfailed e he
    exact ⟨r, htells, hslot, heq⟩

/-- A call of an entry point that is given an open context. -/
theorem callNative_told_of_open (hX : b.Backs X h)
    (hslot : (b.machine.native.slot? h).isSome = true) (symbol : Symbol)
    {call : Option Handle → Action Simulation (Answer α)}
    {native : Option Handle → Call Simulation α} (hoffers : Offers call native)
    (hreports : Reports said b.machine native) :
    Told said h b (callNative (some X) symbol call b) := by
  let b₀ := b.note (.remarked (.nativeCall symbol true))
  let a := (native (some h) b.machine).1
  let b₁ := (call (some h) b₀).2
  have hX₀ : b₀.Backs X h := hX.quiet (.remarked b _)
  have hmade : call (some h) b₀ = (.ok a, b₁) := Prod.ext (hoffers.invokes (some h) b₀).1 rfl
  have hmachine : b₁.machine = (native (some h) b.machine).2 := (hoffers.invokes (some h) b₀).2
  have hcalls : b₀.contextCalls < b₁.contextCalls := hoffers.calls (some h) b₀
  have hconversions : b₁.conversions = b₀.conversions := (hoffers.quiet (some h) b₀).conversions
  have hjobs : b₁.machine.native.jobs.length = b₀.machine.native.jobs.length := by
    rw [hmachine]
    exact hreports.jobs (some h)
  obtain ⟨latest, htells, hlatest⟩ := hreports.tells hslot
  have hslot₁ : b₁.machine.native.slot? h = some latest := by rw [hmachine, hlatest]
  -- What is remarked on before and after is none of the context's.
  have hremarked {result : Except Failure α} {b₂ : Bridge Simulation} {slow : Option Remark}
      {ended : Remark} (htold : Told said h b₀ (result, b₂)) :
      Told said h b (result, (b₂.tell slow).note (.remarked ended)) :=
    .after (.remarked b _) <| (htold.before (Idles.tell b₂ slow).shows).before
      (Idles.remarked _ ended).shows
  cases hok : a.status.isOk with
  | true =>
    have hunder := callUnder_of_ok hX₀.passed hmade hok
    obtain ⟨slow, ended, heq⟩ := callNative_apply hunder
    rw [heq]
    exact hremarked <| .called hcalls hconversions hjobs hslot₁ (fun _ _ => htells.of_ok hok)
      fun _ he => by cases he
  | false =>
    obtain ⟨b₂, hdiagnose, hmachine₂, hcounts, hquiet⟩ :=
      hX₀.diagnose_apply hslot₁ htells.coherent
    rw [htells.status] at hdiagnose
    have hunder := callUnder_of_failed hX₀.passed hmade hok hdiagnose
    obtain ⟨slow, ended, heq⟩ := callNative_apply hunder
    rw [heq]
    refine hremarked <| .called (Nat.lt_of_lt_of_le hcalls hcounts)
      (hquiet.conversions.trans hconversions) (hmachine₂ ▸ hjobs) (hmachine₂ ▸ hslot₁)
      (fun _ he => by cases he) ?_
    intro e he
    cases he
    obtain ⟨r, hlatest, hstatus⟩ := htells.of_failed hok
    exact ⟨r, hlatest, hstatus.symm ▸ htells, hstatus.symm ▸ rfl⟩

variable (hX : b.Knows X h) (hslot : (b.machine.native.slot? h).isSome = true)

include hX hslot

/-- **A call of an entry point tells what its context tells**, whether or not the context is
open. -/
theorem callNative_told (symbol : Symbol) {call : Option Handle → Action Simulation (Answer α)}
    {native : Option Handle → Call Simulation α} (hoffers : Offers call native)
    (hreports : Reports said b.machine native) :
    Told said h b (callNative (some X) symbol call b) := by
  cases hopen : (b.resource (b.context X).resource).closed with
  | true =>
    obtain ⟨b', heq, e⟩ := callNative_idles hopen symbol call
    rw [heq]
    exact .idle e fun e he => by cases he; rfl
  | false => exact callNative_told_of_open (hX.backs hopen) hslot symbol hoffers hreports

end Native

end HandleBridge
