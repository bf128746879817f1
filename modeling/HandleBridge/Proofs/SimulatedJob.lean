import HandleBridge.Proofs.Consumption
import HandleBridge.Proofs.Growth
import HandleBridge.Proofs.Reported
import HandleBridge.Proofs.SimulatedCalls

/-!
# Proofs/SimulatedJob — what the calls on an open job of the simulated library come to

`Bridge.Stands` ties an open job to the native job behind its handle.  While it holds, and with a
context of the same library or none, each call on the job gives what the entry point answers, and
leaves the native job, the clock and everything else as the entry point does: `Bridge.Leaves`.
-/

namespace HandleBridge

open HandleBridge.Action Bridge Simulation

variable {α β : Type}

/-! ## Reading a context -/

namespace Simulation

variable (c : Option Handle) (out : Bool) (m : Machine Simulation)

theorem observe_snd (read : Option Report → Option α) : (observe read c out m).2 = m := by
  rw [observe]
  split
  · rfl
  · split
    · split <;> rfl
    · rfl

theorem observeText_snd (read : Option Report → Option (Option String)) :
    (observeText read c out m).2 = m := observe_snd c out m read

end Simulation

namespace Bridge

/-- The machine is as it was. -/
def Rests (b b' : Bridge Simulation) : Prop := b'.machine = b.machine

instance : IsPreorder (Bridge Simulation) Rests where
  refl _ := rfl
  trans _ _ _ h h' := Eq.trans h' h

/-- The getters of the simulated library change nothing, so what a call ensures that reads a context
is what notes of calls ensure. -/
theorem readDiagnostic_ensures {R : Bridge Simulation → Bridge Simulation → Prop}
    [IsPreorder (Bridge Simulation) R]
    (hcalled : ∀ b symbol target, R b (b.note (.called symbol target))) (ctx : Handle)
    (status : Status) : (readDiagnostic library.entry ctx status).Ensures R := by
  have hask {β : Type} {symbol : Symbol} {getter : Option Handle → Bool → Call Simulation β}
      (hgetter : ∀ c out m, (getter c out m).2 = m) (take : Answer β → Reading) :
      (ask symbol getter ctx take).Ensures R := by
    intro b
    have hrests : (ask symbol getter ctx take b).2 = b.note (.called symbol (some ctx)) :=
      congrArg (b.note (.called symbol (some ctx))).withMachine (hgetter (some ctx) true b.machine)
    rw [hrests]
    exact hcalled b symbol _
  have htext (symbol : Symbol) (read : Option Report → Option (Option String))
      (take : Answer (Option StringOut) → Reading) :
      (ask symbol (observeText read) ctx take).Ensures R :=
    hask (fun c out m => observeText_snd c out m read) take
  have hnumber (symbol : Symbol) (read : Option Report → Option Int32)
      (take : Answer (Option Int32) → Reading) : (ask symbol (observe read) ctx take).Ensures R :=
    hask (fun c out m => observe_snd c out m read) take
  refine .bind (.bind (htext _ _ _) fun r => htext _ _ _) fun r => ?_
  split
  · exact .bind (.bind (hnumber _ _ _) fun _ => .bind (htext _ _ _) fun _ =>
      .bind (hnumber _ _ _) fun _ => htext _ _ _) fun _ => .pure _
  · exact .pure _

/-- Can a call be passed a context?  It is open, and of the simulated library. -/
def Fit (b : Bridge Simulation) (ctx : Option Context) : Prop :=
  ∀ c ∈ ctx, (b.resource (b.context c).resource).closed = false ∧
    (b.context c).library = Simulation.library

theorem fit_none (b : Bridge Simulation) : b.Fit none :=
  fun _ hc => absurd hc (Option.not_mem_none _)

/-- A context that is passed, of the simulated library, is fit. -/
theorem fit_of_passed {b : Bridge Simulation} {ctx : Option Context} (hpassed : b.passed ctx ≠ none)
    (hlibrary : ∀ X, ctx = some X → (b.context X).library = Simulation.library) : b.Fit ctx := by
  rintro X rfl
  refine ⟨Bool.eq_false_iff.2 fun hclosed => hpassed (if_pos hclosed), hlibrary X rfl⟩

namespace Fit

variable {b : Bridge Simulation} {ctx : Option Context} (h : b.Fit ctx)

include h

theorem passed : ∃ c, b.passed ctx = some c := by
  cases ctx with
  | none => exact ⟨none, rfl⟩
  | some X =>
    rw [Bridge.passed, if_neg (Bool.eq_false_iff.1 (h X rfl).1)]
    exact ⟨_, rfl⟩

/-- A snapshot of a context is taken without changing anything. -/
theorem diagnose (status : Status) : (b.diagnose status ctx).Ensures Rests := by
  cases ctx with
  | none => exact .pure none
  | some X =>
    rw [Bridge.diagnose, (h X rfl).2]
    exact .map (readDiagnostic_ensures (fun _ _ _ => rfl) _ _)

end Fit

end Bridge

theorem Quiet.fit {b b' : Bridge Simulation} (h : Quiet b b') {ctx : Option Context}
    (hfit : b.Fit ctx) : b'.Fit ctx := by
  intro c hc
  have hcontext : b'.context c = b.context c := by rw [context, h.contexts, context]
  rw [hcontext, h.resource]
  exact hfit c hc

/-! ## Calls of entry points -/

/-- Is a call that of an entry point, but for the journal and scratch memory? -/
def Invokes (call : Option Handle → Action Simulation (Answer α))
    (native : Option Handle → Call Simulation α) : Prop :=
  ∀ c b, (call c b).1 = .ok (native c b.machine).1 ∧ (call c b).2.machine = (native c b.machine).2

theorem invokes_invokeInto (out : Buffer) (cell : α → Cell) (symbol : Symbol)
    (target : Option Handle) (native : Option Handle → Call Simulation α) :
    Invokes (fun c => invokeInto out cell symbol target (native c)) native :=
  fun _ _ => ⟨rfl, rfl⟩

section Native

variable {b : Bridge Simulation} {ctx : Option Context}
  {call : Option Handle → Action Simulation (Answer α)}
  {native : Option Handle → Call Simulation α} (hfit : b.Fit ctx) (hcall : Invokes call native)

include hfit hcall

/-- A failed call reads its context, which changes nothing. -/
theorem callUnder_reported :
    ∃ c status result b', b.passed ctx = some c ∧
      callUnder call ctx b = (.ok (status, result), b') ∧
      b'.machine = (native c b.machine).2 ∧ (native c b.machine).1.Reported result := by
  obtain ⟨c, hpassed⟩ := hfit.passed
  have hmade : call c b = (.ok (native c b.machine).1, (call c b).2) :=
    Prod.ext (hcall c b).1 rfl
  have hmachine := (hcall c b).2
  cases hok : (native c b.machine).1.status.isOk with
  | true => exact ⟨c, _, _, _, hpassed, callUnder_of_ok hpassed hmade hok, hmachine, .written hok⟩
  | false =>
    obtain ⟨d, hd⟩ := b.diagnose_total (native c b.machine).1.status ctx (call c b).2
    have hrests := hfit.diagnose (native c b.machine).1.status (call c b).2
    exact ⟨c, _, _, _, hpassed, callUnder_of_failed hpassed hmade hok (Prod.ext hd rfl),
      hrests.trans hmachine, .failed d hok⟩

/-- **A call of an entry point** tells the caller what it answers, and leaves its machine. -/
theorem callNative_reported (symbol : Symbol) :
    ∃ c, b.passed ctx = some c ∧
      (native c b.machine).1.Reported (callNative ctx symbol call b).1 ∧
      (callNative ctx symbol call b).2.machine = (native c b.machine).2 := by
  let b₀ := b.note (.remarked (.nativeCall symbol ctx.isSome))
  obtain ⟨c, status, result, b', hpassed, hmade, hmachine, hreported⟩ :=
    callUnder_reported (b := b₀) hfit hcall
  obtain ⟨slow, ended, heq⟩ := callNative_apply hmade
  rw [heq]
  exact ⟨c, ((Quiet.remarked b _).passed ctx).symm.trans hpassed, hreported,
    (b'.machine_tell slow).trans hmachine⟩

/-- The same, for an entry point that answers alike whatever context it is passed. -/
theorem callNative_gives (symbol : Symbol) {a : Answer α} {m : Machine Simulation}
    (hgives : ∀ c, Gives (native c b.machine) a m) :
    a.Reported (callNative ctx symbol call b).1 ∧
      m.Like (callNative ctx symbol call b).2.machine := by
  obtain ⟨c, -, hreported, hmachine⟩ := callNative_reported hfit hcall symbol
  rw [(hgives c).answer] at hreported
  rw [hmachine]
  exact ⟨hreported, (hgives c).machine⟩

end Native

namespace Resource

variable {b : Bridge Simulation} {r : Resource} {ctx : Option Context} (hlive : b.Live r)
  (hfit : b.Fit ctx)

include hlive hfit

/-- **A call on an open resource** takes memory for what the entry point writes, finds the resource
open, and is answered. -/
theorem call_gives (symbol : Symbol) (initial : Cell) (cell : α → Cell)
    (native : Option Handle → Handle → Call Simulation α) {a : α} {m : Machine Simulation}
    (hgives : ∀ c, Gives (native c (b.resource r).handle b.machine) ⟨.ok, a⟩ m) :
    ∃ out b₁ b', (b.resource r).manager.allocate [initial] b = (.ok out, b₁) ∧
      (∀ (β : Type) (f : Handle → Action Simulation β),
        r.withHandle f b₁ = f (b.resource r).handle b₁) ∧
      callNative ctx symbol (fun c => invokeInto out cell symbol (some (b.resource r).handle)
        (native c (b.resource r).handle)) b₁ = (.ok a, b') ∧
      Quiet b b' ∧ m.Like b'.machine := by
  obtain ⟨out, scratch, n, halloc⟩ := Manager.allocate_of_open hlive.2 [initial]
  have hspend := Quiet.spend b (b.resource r).manager scratch n
  obtain ⟨hreported, hlike⟩ := callNative_gives (hspend.fit hfit)
    (invokes_invokeInto out cell symbol (some (b.resource r).handle)
      fun c => native c (b.resource r).handle) symbol hgives
  have hquiet := hspend.trans (Quiet.callNative ctx symbol (fun c =>
    .invokeInto out cell symbol (some (b.resource r).handle) (native c (b.resource r).handle)) _)
  have hopen : ((b.spend (b.resource r).manager scratch n).resource r).closed = false := hlive.1
  exact ⟨out, _, _, halloc, fun _ f => withHandle_of_open hopen f,
    Prod.ext hreported.of_ok rfl, hquiet, hlike⟩

/-- A question to an open resource is answered. -/
theorem query_gives {symbol : Symbol}
    (call : Option Handle → Option Handle → Call Simulation (Option Bool)) {x : Bool}
    {m : Machine Simulation}
    (hgives : ∀ c, Gives (call c (some (b.resource r).handle) b.machine) ⟨.ok, some x⟩ m) :
    ∃ b', r.query ctx symbol call b = (.ok x, b') ∧ Quiet b b' ∧ m.Like b'.machine := by
  obtain ⟨out, b₁, b', halloc, hopen, hcall, hquiet, hlike⟩ := call_gives hlive hfit symbol
    (.flag false) (fun b => .flag (b.getD false)) (fun c h => call c (some h)) hgives
  have halloc' : r.allocate [.flag false] b = (.ok out, b₁) := by
    rw [Resource.allocate, bind_of_ok (read_apply _ _), halloc]
  refine ⟨b', ?_, hquiet, hlike⟩
  rw [query, bind_of_ok halloc', hopen, bind_of_ok hcall]
  rfl

end Resource

/-! ## A job and what stands behind it -/

namespace Bridge

/-- The native handle of a job. -/
def handleOf (b : Bridge Simulation) (j : Job) : Handle := (b.resource (b.job j).resource).handle

/-- **An open job of the simulated library, and the native job behind it.** -/
structure Stands (b : Bridge Simulation) (j : Job) (J : Simulation.Job) : Prop where
  has : b.Has (.job j)
  live : b.Live (b.job j).resource
  library : (b.job j).library = Simulation.library
  native : b.machine.native.job? (some (b.handleOf j)) = some J
  unclosed : J.closed = false

/-- **What a call on a job leaves**: the native job, the clock, and everything that was made. -/
structure Leaves (b : Bridge Simulation) (j : Job) (J : Simulation.Job) (clock : Nat)
    (b' : Bridge Simulation) : Prop where
  grows : b.Grows b'
  stands : b'.Stands j J
  clock : b'.machine.clock = clock
  cancelJob : ∀ t k, b.machine.native.cancelJob? t = some k →
    b'.machine.native.cancelJob? t = some k

variable {b b' b'' : Bridge Simulation} {j : Job} {J J' : Simulation.Job} {clock : Nat}

theorem Grows.handleOf (h : b.Grows b') (hs : b.Stands j J) : b'.handleOf j = b.handleOf j := by
  rw [Bridge.handleOf, h.jobResource hs.has, h.resource _ (has_of_open hs.live.1),
    Bridge.handleOf]

theorem Stands.unique (h : b.Stands j J) (h' : b.Stands j J') : J = J' :=
  Option.some.inj (h.native.symm.trans h'.native)

namespace Leaves

theorem of_grows (hs : b.Stands j J) (hgrows : b.Grows b') (hclock : b'.machine.clock = clock)
    (hnative : b'.machine.native.job? (some (b.handleOf j)) = some J') (hclosed : J'.closed = false)
    (hcancel : ∀ t k, b.machine.native.cancelJob? t = some k →
      b'.machine.native.cancelJob? t = some k) : b.Leaves j J' clock b' := by
  refine ⟨hgrows, ⟨hgrows.has _ hs.has, ?_, ?_, ?_, hclosed⟩, hclock, hcancel⟩
  · rw [hgrows.jobResource hs.has]
    exact hgrows.live hs.live
  · rw [hgrows.jobLibrary hs.has]
    exact hs.library
  · rwa [hgrows.handleOf hs]

/-- A call that changes the machine alone. -/
theorem of_like {m : Machine Simulation} (hs : b.Stands j J) (hgrows : b.Grows b')
    (hlike : m.Like b'.machine) (hnative : m.native.job? (some (b.handleOf j)) = some J')
    (hclosed : J'.closed = false) (hcancel : m.native.cancelJobs = b.machine.native.cancelJobs) :
    b.Leaves j J' m.clock b' := by
  refine of_grows hs hgrows hlike.clock ((hlike.job? _).trans hnative) hclosed fun t k hk => ?_
  rw [hlike.cancelJob?, Simulation.cancelJob?, hcancel]
  exact hk

/-- A call that does not come to the machine. -/
theorem of_rests (hs : b.Stands j J) (hquiet : Quiet b b') (hrests : b.Rests b') :
    b.Leaves j J b.machine.clock b' := by
  refine of_grows hs (.quiet hquiet) ?_ ?_ hs.unclosed ?_ <;> rw [hrests]
  · exact hs.native
  · exact fun _ _ => id

theorem trans {J'' : Simulation.Job} {later : Nat} (h : b.Leaves j J' clock b')
    (h' : b'.Leaves j J'' later b'') : b.Leaves j J'' later b'' :=
  ⟨h.grows.trans h'.grows, h'.stands, h'.clock, fun t k hk => h'.cancelJob t k (h.cancelJob t k hk)⟩

/-- What comes after a call and leaves the machine alone. -/
theorem then_rests (h : b.Leaves j J clock b') (hgrows : b'.Grows b'') (hrests : b'.Rests b'') :
    b.Leaves j J clock b'' := by
  refine h.trans (of_grows h.stands hgrows ?_ ?_ h.stands.unclosed ?_) <;> rw [hrests]
  · exact h.clock
  · exact h.stands.native
  · exact fun _ _ => id

end Leaves

end Bridge

namespace Job

variable {b : Bridge Simulation} {j : Job} {J : Simulation.Job} {ctx : Option Context}

/-- **An open manager takes a native job**, whose result nobody has taken then. -/
theorem adopt_stands {m : Manager} {h : Handle} (hm : (b.manager m).closed = false)
    (hJ : b.machine.native.job? (some h) = some J) (hopen : J.closed = false)
    (converter : Converter Simulation) :
    ∃ b', Job.adopt Simulation.library m h converter b = (.ok ⟨b.jobs.size⟩, b') ∧
      b'.Stands ⟨b.jobs.size⟩ J ∧ (b'.job ⟨b.jobs.size⟩).taken = false := by
  let releaser : Releaser Simulation := .native (some .jobDispose)
    (fun h => Simulation.library.entry.jobDispose (some h)) none
  let b₁ := b.adopted m h .job releaser
  let s : State Simulation := ⟨b.next, Simulation.library, converter, false, none⟩
  have hread : (b₁.addJob s).job ⟨b.jobs.size⟩ = s := b₁.jobs.get_add_size s
  have hnext : (b₁.addJob s).resource b.next = _ := b.resource_adopted_next m h .job releaser
  refine ⟨b₁.addJob s, ?_, ⟨?_, ?_, ?_, ?_, hopen⟩, congrArg State.taken hread⟩
  · rw [adopt, bind_of_ok (Resource.adopt_of_open hm h .job releaser)]
    rfl
  · exact Nat.lt_of_lt_of_eq (Nat.lt_succ_self _) (Table.size_add b₁.jobs s).symm
  · rw [hread, Live, hnext]
    exact ⟨rfl, ((Grows.adopted b m h .job releaser).closed m (has_of_manager_open hm)).trans hm⟩
  · rw [hread]
  · rw [handleOf, hread, hnext]
    exact hJ

end Job

/-- A process that started a job and put it under management. -/
def Bridge.ofJob (spec : JobSpec) (converter : Converter Simulation) : Bridge Simulation :=
  let (h, native) := (default : Simulation).newJob spec 0
  let b := (Manager.create 16 (.start native [])).2
  (Job.adopt Simulation.library ⟨0⟩ h converter b).2

theorem Bridge.ofJob_stands (spec : JobSpec) (converter : Converter Simulation) :
    (ofJob spec converter).Stands ⟨0⟩ ⟨spec, 0, false, false, none⟩ ∧
      ((ofJob spec converter).job ⟨0⟩).taken = false := by
  let native := ((default : Simulation).newJob spec 0).2
  let b := (Manager.create 16 (.start native [])).2
  have hjob : b.machine.native.job? (some (.ofIndex 0)) = some ⟨spec, 0, false, false, none⟩ := rfl
  have hopen : (b.manager ⟨0⟩).closed = false := rfl
  obtain ⟨b', heq, hstands⟩ := Job.adopt_stands hopen hjob rfl converter
  have hof : ofJob spec converter = b' := congrArg Prod.snd heq
  rw [hof]
  exact hstands

namespace Job

variable {b : Bridge Simulation} {j : Job} {J : Simulation.Job} {ctx : Option Context}

theorem label_snd (j : Job) (ctx : Option Context) (b : Bridge Simulation) :
    (j.label ctx b).2 = (j.name ctx b).2 := by
  rw [label_eq]

/-! ## Names, waiting and cancelling -/

/-- The library knows the name of a job that is there, whether or not the job is closed there. -/
theorem lookUpName_gives (hlive : b.Live (b.job j).resource) (hfit : b.Fit ctx)
    (hlibrary : (b.job j).library = Simulation.library)
    (hj : b.machine.native.job? (some (b.handleOf j)) = some J) :
    ∃ name b', j.lookUpName ctx b = (.ok name, b') ∧ b.machine.Like b'.machine := by
  obtain ⟨out, b₁, b', halloc, hopen, hcall, -, hlike⟩ := Resource.call_gives hlive hfit
    .jobName (.ofString none) .ofString
    (fun c h => Simulation.library.entry.jobName c (some h) true) (jobName_gives hj)
  have halloc' : (b.job j).resource.allocate [.ofString none] b = (.ok out, b₁) := by
    rw [Resource.allocate, bind_of_ok (read_apply _ _), halloc]
  rw [lookUpName, bind_of_ok (read_apply _ _), hlibrary, bind_of_ok halloc',
    bind_of_ok ((hopen _ _).trans hcall)]
  exact ⟨_, _, rfl, hlike⟩

section Questions

variable (hs : b.Stands j J) (hfit : b.Fit ctx)

include hs hfit

/-- A question to a job is answered by the native job. -/
theorem query_leaves {symbol : Symbol}
    (call : EntryPoints Simulation → Option Handle → Option Handle → Call Simulation (Option Bool))
    {J' : Simulation.Job} {x : Bool} {m : Machine Simulation}
    (hgives : ∀ c, Gives (call Simulation.library.entry c (some (b.handleOf j)) b.machine)
      ⟨.ok, some x⟩ m)
    (hnative : m.native.job? (some (b.handleOf j)) = some J') (hclosed : J'.closed = false)
    (hcancel : m.native.cancelJobs = b.machine.native.cancelJobs) :
    ∃ b', (b.job j).resource.query ctx symbol (call (b.job j).library.entry) b = (.ok x, b') ∧
      Quiet b b' ∧ b.Leaves j J' m.clock b' := by
  rw [hs.library]
  obtain ⟨b', heq, hquiet, hlike⟩ := Resource.query_gives hs.live hfit _ hgives
  exact ⟨b', heq, hquiet, .of_like hs (.quiet hquiet) hlike hnative hclosed hcancel⟩

theorem wait_leaves (limit : Nat) :
    let w := await J.due (some (Duration.saturate limit)) b.machine.clock
    ∃ b', j.wait ctx limit b = (.ok w.1, b') ∧ Quiet b b' ∧ b.Leaves j J w.2 b' :=
  query_leaves hs hfit (fun entry c h => entry.jobWait c h (Duration.saturate limit) true)
    (fun c => jobWait_gives hs.native c hs.unclosed _) hs.native hs.unclosed rfl

theorem isDone_leaves :
    ∃ b', j.isDone ctx b = (.ok (J.isDone b.machine.clock), b') ∧ Quiet b b' ∧
      b.Leaves j J b.machine.clock b' :=
  query_leaves hs hfit (fun entry c h => entry.jobIsDone c h true)
    (fun c => jobIsDone_gives hs.native c hs.unclosed) hs.native hs.unclosed rfl

theorem cancel_leaves :
    let J' := J.cancelUnlessDone b.machine.clock
    let w := await J'.due none b.machine.clock
    ∃ b', j.cancel ctx b = (.ok w.1, b') ∧ Quiet b b' ∧ b.Leaves j J' w.2 b' :=
  query_leaves hs hfit (fun entry c h => entry.jobCancel c h true)
    (fun c => jobCancel_gives hs.native c hs.unclosed) (job?_setJob hs.native _)
    ((Simulation.Job.Follows.cancelUnlessDone _ J).closed.trans hs.unclosed) rfl

theorem cancelFor_leaves (limit : Nat) :
    let J' := J.cancelUnlessDone b.machine.clock
    let w := await J'.due (some (Duration.saturate limit)) b.machine.clock
    ∃ b', j.cancelFor ctx limit b = (.ok w.1, b') ∧ Quiet b b' ∧ b.Leaves j J' w.2 b' :=
  query_leaves hs hfit (fun entry c h => entry.jobCancelFor c h (Duration.saturate limit) true)
    (fun c => jobCancelFor_gives hs.native c hs.unclosed _) (job?_setJob hs.native _)
    ((Simulation.Job.Follows.cancelUnlessDone _ J).closed.trans hs.unclosed) rfl

/-- Looking up the name of a job asks the library once at most. -/
theorem name_like : b.machine.Like (j.name ctx b).2.machine := by
  rw [name, bind_of_ok (read_apply _ _)]
  cases (b.job j).name with
  | some name => exact .refl _
  | none =>
    obtain ⟨name, b', heq, hlike⟩ := lookUpName_gives hs.live hfit hs.library hs.native
    change b.machine.Like (j.lookUpName ctx b).2.machine
    rw [heq]
    exact hlike

theorem name_leaves : b.Leaves j J b.machine.clock (j.name ctx b).2 :=
  .of_like hs (.quiet (Quiet.name j ctx b)) (name_like hs hfit) hs.native hs.unclosed rfl

theorem label_like : b.machine.Like (j.label ctx b).2.machine := by
  rw [label_snd]
  exact name_like hs hfit

theorem label_leaves : b.Leaves j J b.machine.clock (j.label ctx b).2 := by
  rw [label_snd]
  exact name_leaves hs hfit

end Questions

/-! ## Cancel requests that are tracked -/

end Job

/-- **An open cancel request of the simulated library, and the native object behind it.** -/
structure Bridge.Tracks (b : Bridge Simulation) (c : Cancellation) (k : CancelJob) : Prop where
  has : b.Has (.cancellation c)
  live : b.Live (b.cancellation c).resource
  library : (b.cancellation c).library = Simulation.library
  native : b.machine.native.cancelJob? (some (b.resource (b.cancellation c).resource).handle) =
    some k

/-- What a call on a job leaves behind includes the cancel requests that were tracked before. -/
theorem Bridge.Leaves.tracks {b b' : Bridge Simulation} {j : Job} {J : Simulation.Job} {clock : Nat}
    {c : Cancellation} {k : CancelJob} (h : b.Leaves j J clock b') (hc : b.Tracks c k) :
    b'.Tracks c k := by
  have hcancellation := h.grows.cancellation c hc.has
  refine ⟨h.grows.has _ hc.has, ?_, ?_, ?_⟩ <;> rw [hcancellation]
  · exact h.grows.live hc.live
  · exact hc.library
  · rw [h.grows.resource _ (has_of_open hc.live.1)]
    exact h.cancelJob _ k hc.native

/-- An open manager takes the object that tracks a cancel request. -/
theorem Cancellation.adopt_tracks {b : Bridge Simulation} {m : Manager} {t : Handle} {k : CancelJob}
    (hm : (b.manager m).closed = false)
    (hk : b.machine.native.cancelJob? (some t) = some k) :
    ∃ b', Cancellation.adopt Simulation.library m t b = (.ok ⟨b.cancellations.size⟩, b') ∧
      b.Grows b' ∧ b.Rests b' ∧ b'.jobs = b.jobs ∧ b'.Tracks ⟨b.cancellations.size⟩ k := by
  let b₁ := b.adopted m t .cancelJob (.native (some .cancelJobDispose)
    (fun h => Simulation.library.entry.cancelJobDispose (some h)) none)
  let s : Cancellation.State Simulation := ⟨b.next, Simulation.library⟩
  have hgrows : b.Grows b₁ := .adopted b m t _ _
  have hread : (b₁.addCancellation s).cancellation ⟨b.cancellations.size⟩ = s :=
    b₁.cancellations.get_add_size s
  have hnext : (b₁.addCancellation s).resource b.next = _ := b.resource_adopted_next m t _ _
  refine ⟨b₁.addCancellation s, Cancellation.adopt_of_open hm Simulation.library t,
    hgrows.trans (.addCancellation b₁ s), rfl, rfl, ?_, ?_, ?_, ?_⟩
  · exact Nat.lt_of_lt_of_eq (Nat.lt_succ_self _) (Table.size_add b₁.cancellations s).symm
  · rw [hread, Live, hnext]
    exact ⟨rfl, (hgrows.closed m (has_of_manager_open hm)).trans hm⟩
  · rw [hread]
  · rw [hread, hnext]
    exact hk

namespace Job

variable {b : Bridge Simulation} {j : Job} {J : Simulation.Job} {ctx : Option Context}

section Tracking

variable (hs : b.Stands j J) (hfit : b.Fit ctx)

include hs hfit

/-- A cancel request asks the native job first. -/
theorem cancelAsync_gives {tracker : Option Handle} {m : Machine Simulation}
    (hgives : ∀ c, Gives (Simulation.jobCancelAsync c (some (b.handleOf j)) true b.machine)
      ⟨.ok, tracker⟩ m) :
    ∃ b', Quiet b b' ∧ m.Like b'.machine ∧
      j.cancelAsync ctx b = (match tracker with
        | none => return none
        | some h => some <$> Cancellation.adopt Simulation.library
            (b.resource (b.job j).resource).manager h : Action Simulation _) b' := by
  obtain ⟨out, b₁, b', halloc, hopen, hcall, hquiet, hlike⟩ := Resource.call_gives hs.live hfit
    .jobCancelAsync (.ofHandle none) .ofHandle
    (fun c h => Simulation.library.entry.jobCancelAsync c (some h) true) hgives
  refine ⟨b', hquiet, hlike, ?_⟩
  rw [cancelAsync, bind_of_ok (read_apply _ _), bind_of_ok (read_apply _ _), bind_of_ok halloc,
    hs.library]
  exact bind_of_ok ((hopen _ _).trans hcall)

/-- A job that is done, or was cancelled before, is left as it is. -/
theorem cancelAsync_leaves_none
    (hno : J.isDone b.machine.clock = true ∨ J.cancelAt.isSome = true) :
    ∃ b', j.cancelAsync ctx b = (.ok none, b') ∧ Quiet b b' ∧
      b.Leaves j J b.machine.clock b' := by
  obtain ⟨b', hquiet, hlike, heq⟩ := cancelAsync_gives hs hfit fun c =>
    jobCancelAsync_gives_none hs.native c hs.unclosed hno
  exact ⟨b', heq, hquiet, .of_like hs (.quiet hquiet) hlike hs.native hs.unclosed rfl⟩

/-- The first cancel request of a job that is not done is tracked. -/
theorem cancelAsync_leaves_some (hnot : J.isDone b.machine.clock = false)
    (hnone : J.cancelAt = none) :
    let doneAt := b.machine.clock + J.spec.cancelLatency
    let c : Cancellation := ⟨b.cancellations.size⟩
    ∃ b', j.cancelAsync ctx b = (.ok (some c), b') ∧
      b.Leaves j { J with cancelAt := some doneAt } b.machine.clock b' ∧
      (b'.job j).taken = (b.job j).taken ∧ b'.Tracks c ⟨doneAt, J.spec.cancelProbe⟩ := by
  intro doneAt c
  let set := b.machine.native.setJob (b.handleOf j) { J with cancelAt := some doneAt }
  let tracked := set.newCancelJob ⟨doneAt, J.spec.cancelProbe⟩
  obtain ⟨b₁, hquiet, hlike, heq⟩ := cancelAsync_gives hs hfit fun c =>
    jobCancelAsync_gives_some hs.native c hs.unclosed hnot hnone
  have hjob : set.job? (some (b.handleOf j)) = some { J with cancelAt := some doneAt } :=
    job?_setJob hs.native _
  have hleaves : b.Leaves j { J with cancelAt := some doneAt } b.machine.clock b₁ := by
    refine .of_grows hs (.quiet hquiet) hlike.clock ((hlike.job? _).trans hjob) hs.unclosed ?_
    intro t k hk
    rw [hlike.cancelJob?]
    exact cancelJob?_newCancelJob_of_some (s := set) hk _
  have hnew : b₁.machine.native.cancelJob? (some tracked.1) = some ⟨doneAt, J.spec.cancelProbe⟩ :=
    (hlike.cancelJob? _).trans (cancelJob?_newCancelJob set _)
  obtain ⟨b', hadopt, hgrows, hrests, hjobs, htracks⟩ :=
    Cancellation.adopt_tracks ((hquiet.closed _).trans hs.live.2) hnew
  have hsize : b₁.cancellations.size = b.cancellations.size :=
    congrArg Table.size hquiet.cancellations
  rw [hsize] at hadopt htracks
  refine ⟨b', heq.trans (bind_of_ok hadopt), hleaves.then_rests hgrows hrests, ?_, htracks⟩
  exact (congrArg (fun jobs => (jobs.get j.index).taken) hjobs).trans (hquiet.taken j)

end Tracking

end Job

namespace Cancellation

variable {b : Bridge Simulation} {c : Cancellation} {k : CancelJob} {j : Job} {J : Simulation.Job}
  {ctx : Option Context} (hc : b.Tracks c k) (hs : b.Stands j J) (hfit : b.Fit ctx)

include hc hs hfit

theorem wait_leaves (limit : Nat) :
    let w := await (some k.doneAt) (some (Duration.saturate limit)) b.machine.clock
    ∃ b', c.wait ctx limit b = (.ok w.1, b') ∧ Quiet b b' ∧ b.Leaves j J w.2 b' := by
  obtain ⟨b', heq, hquiet, hlike⟩ := Resource.query_gives hc.live hfit
    (fun ctx h => Simulation.library.entry.cancelJobWait ctx h (Duration.saturate limit) true)
    fun ctx => cancelJobWait_gives hc.native ctx (Duration.saturate limit)
  refine ⟨b', ?_, hquiet, .of_like hs (.quiet hquiet) hlike hs.native hs.unclosed rfl⟩
  rw [wait, bind_of_ok (read_apply _ _), hc.library]
  exact heq

theorem isDone_leaves :
    ∃ b', c.isDone ctx b = (.ok (k.doneAt ≤ b.machine.clock), b') ∧ Quiet b b' ∧
      b.Leaves j J b.machine.clock b' := by
  obtain ⟨b', heq, hquiet, hlike⟩ := Resource.query_gives hc.live hfit
    (fun ctx h => Simulation.library.entry.cancelJobIsDone ctx h true)
    fun ctx => cancelJobIsDone_gives hc.native ctx
  refine ⟨b', ?_, hquiet, .of_like hs (.quiet hquiet) hlike hs.native hs.unclosed rfl⟩
  rw [isDone, bind_of_ok (read_apply _ _), hc.library]
  exact heq

end Cancellation

end HandleBridge
