import HandleBridge.Proofs.ClosedContexts
import HandleBridge.Proofs.Slotted
import HandleBridge.Proofs.Timing

/-!
# Proofs/Polls — an unsuccessful poll is a sleep

A call that asks for the completion of a job in vain leaves what a sleep of the same length leaves
(`Bridge.Elapses`), but for scratch memory and for the report that it left with its context.  Calls
that are made afterwards without that context do not see the difference, one by one and therefore in
any number (`Run.Echoes`), so nothing of the job was consumed.
-/

namespace HandleBridge

open HandleBridge.Action Bridge Simulation

variable {σ α : Type}

/-! ## Entry points that do not come to the completion -/

/-- The machine some time later. -/
def Machine.later (m : Machine σ) (span : Nat) : Machine σ := { m with clock := m.clock + span }

/-- How long a take waits that does not come to the completion. -/
def TakeMode.span : TakeMode → Nat
  | .blocking => 0
  | .bounded limit => Duration.saturate limit
  | .ifReady => 0

namespace Simulation

theorem await_missed {due : Option Nat} {now span : Nat}
    (hmissed : (await due (some span) now).1 = false) :
    await due (some span) now = (false, now + span) := by
  have htimed := timed_await due now span
  refine Prod.ext hmissed (htimed.missed fun instant hinstant => Nat.lt_of_not_le fun hle => ?_)
  exact Bool.eq_false_iff.1 hmissed (htimed.came.2 ⟨instant, hinstant, hle⟩)

section

variable {m : Machine Simulation} {h : Handle} {j : Job} (hj : m.native.job? (some h) = some j)
  (hopen : j.closed = false)

include hj hopen

theorem jobWait_missed {limit : Nat} (hmissed : (await j.due (some limit) m.clock).1 = false)
    (c : Option Handle) : jobWait c (some h) limit true m =
      (⟨.ok, some false⟩, (m.later limit).filed c none) := by
  rw [jobWait, onOpenJob_apply hj c hopen, waiting, await_missed hmissed]
  rfl

/-- A take that does not come to the completion leaves a report and nothing else. -/
theorem takeCall_missed {mode : TakeMode} (hmissed : (j.attend m.clock mode).1 = false) :
    ∃ a latest, (a.status.isOk = true → a.written = none) ∧ ∀ c,
      takeCall c h m mode = (a, (m.later mode.span).filed c latest) := by
  cases mode with
  | blocking =>
    rw [Job.attend] at hmissed
    rcases hdue : j.due with _ | instant
    · let report := localReport .ioError ("Job<" ++ j.label ++ "> lost its session")
      refine ⟨⟨.ioError, some none⟩, some report, fun hok => Bool.noConfusion hok, fun c => ?_⟩
      rw [takeCall, jobTake, onOpenJob_apply hj c hopen, hdue]
      rfl
    · rw [hdue] at hmissed
      cases hmissed
  | bounded limit =>
    let report := localReport .timeout ("Job<" ++ j.label ++ "> timeout")
    refine ⟨⟨.timeout, some none⟩, some report, fun hok => Bool.noConfusion hok, fun c => ?_⟩
    rw [takeCall, jobTakeFor, onOpenJob_apply hj c hopen, waiting, await_missed hmissed]
    rfl
  | ifReady =>
    have hnot : j.isDone m.clock = false := hmissed
    refine ⟨⟨.ok, none⟩, none, fun _ => rfl, fun c => ?_⟩
    rw [takeCall, jobTakeIfReady, onJob_apply hj c]
    change (((if j.closed then _ else _ : Call Simulation _) m).map _ id) = _
    rw [if_neg (Bool.eq_false_iff.1 hopen)]
    dsimp only
    rw [if_neg (Bool.eq_false_iff.1 hnot)]
    rfl

end

end Simulation

/-! ## Calls that come to nothing -/

/-- **Nothing changed but the machine**, scratch memory and the journal. -/
structure Bridge.Idle (b b' : Bridge σ) : Prop extends Settled b b' where
  process : b'.process = b.process

namespace Bridge.Idle

instance : IsPreorder (Bridge σ) Idle where
  refl b := ⟨Std.Refl.refl b, rfl⟩
  trans _ _ _ h h' := ⟨h.toSettled.trans h'.toSettled, h'.process.trans h.process⟩

theorem trans {b b' b'' : Bridge σ} (h : Idle b b') (h' : Idle b' b'') : Idle b b'' :=
  IsTrans.trans _ _ _ h h'

theorem conversing : Conversing (Idle : Bridge σ → Bridge σ → Prop) where
  machine b m := ⟨Settled.conversing.machine b m, rfl⟩
  called b symbol target := ⟨Settled.conversing.called b symbol target, rfl⟩
  remarked b r h := ⟨Settled.conversing.remarked b r h, rfl⟩
  scratch b s := ⟨Settled.conversing.scratch b s, rfl⟩
  charge b m cells := ⟨Settled.conversing.charge b m cells, rfl⟩

end Bridge.Idle

/-- **What a call leaves that comes to nothing**: some time went by, and a report, or none, was left
with the context that it was passed. -/
structure Bridge.Elapses (b : Bridge Simulation) (ctx : Option Context) (span : Nat)
    (b' : Bridge Simulation) : Prop where
  idle : Idle b b'
  machine : ∃ c latest, b.passed ctx = some c ∧
    b'.machine = (b.machine.later span).filed c latest

section Elapses

variable {b : Bridge Simulation} {ctx : Option Context}

/-- A question that is answered without a look at anything but its context. -/
theorem Resource.query_elapses {r : Resource} (hlive : b.Live r) (hfit : b.Fit ctx)
    (symbol : Symbol) (call : Option Handle → Option Handle → Call Simulation (Option Bool))
    {a : Answer (Option Bool)} {latest : Option Report} {span : Nat}
    (hcall : ∀ c, call c (some (b.resource r).handle) b.machine =
      (a, (b.machine.later span).filed c latest)) :
    b.Elapses ctx span (r.query ctx symbol call b).2 := by
  refine ⟨Idle.conversing.query r ctx symbol call b, ?_⟩
  obtain ⟨out, scratch, n, halloc⟩ := Manager.allocate_of_open hlive.2 [.flag false]
  let b₁ := b.spend (b.resource r).manager scratch n
  have halloc' : r.allocate [.flag false] b = (.ok out, b₁) := by
    rw [Resource.allocate, bind_of_ok (read_apply _ _), halloc]
  have hspend : Quiet b b₁ := .spend b (b.resource r).manager scratch n
  have hopen : (b₁.resource r).closed = false := hlive.1
  let h := (b.resource r).handle
  let asked : Action Simulation (Option Bool) := callNative ctx symbol fun c =>
    invokeInto out (fun b => .flag (b.getD false)) symbol (some h) (call c (some h))
  have hquery : r.query ctx symbol call b = ((fun x => x.getD false) <$> asked) b₁ := by
    rw [query, bind_of_ok halloc', withHandle_of_open hopen]
    rfl
  obtain ⟨c, hpassed, -, hmachine⟩ := callNative_reported (hspend.fit hfit)
    (invokes_invokeInto out (fun b => .flag (b.getD false)) symbol (some h)
      fun c => call c (some h)) symbol
  refine ⟨c, latest, (hspend.passed ctx).symm.trans hpassed, ?_⟩
  rw [hquery, map_apply]
  exact hmachine.trans (congrArg Prod.snd (hcall c))

namespace Job

variable {j : Job} {J : Simulation.Job}

/-- A take of a job that is not marked, if it does not come to the completion. -/
theorem take?_elapses (hs : b.Stands j J) (hfit : b.Fit ctx) (hfree : (b.job j).taken = false)
    {mode : TakeMode} (hmissed : (J.attend b.machine.clock mode).1 = false) :
    b.Elapses ctx mode.span (j.take? ctx mode b).2 := by
  obtain ⟨valueOut, readyOut, b₀, hquiet, hmachine, hjobs, hprocess, -, htake⟩ :=
    takeOnce_of_open hs.live.2 ctx mode
  rw [if_neg (Bool.eq_false_iff.1 hs.live.1), if_neg (Bool.eq_false_iff.1 hfree)] at htake
  obtain ⟨c, hpassed, hreported, hafter⟩ :=
    takeNatively_reported hs.library (hquiet.fit hfit) (b.handleOf j) valueOut readyOut mode
  obtain ⟨a, latest, hwritten, hcall⟩ := takeCall_missed hs.native hs.unclosed hmissed
  rw [hmachine, hcall c] at hreported hafter
  have hpassed₀ := (hquiet.passed ctx).symm.trans hpassed
  have hidle := Idle.trans ⟨⟨hquiet, hjobs⟩, hprocess⟩
    (Idle.conversing.takeNatively (b.job j) ctx (b.handleOf j) valueOut readyOut mode b₀)
  rcases hresult : takeNatively (b.job j) ctx (b.handleOf j) valueOut readyOut mode b₀ with
    ⟨e | _ | value, b₁⟩ <;> rw [hresult] at hreported hafter hidle
  · have htook : j.take? ctx mode b = (.error e, b₁) := by
      rw [take?, bind_of_ok (read_apply _ _), bind_of_ok (read_apply _ _),
        bind_of_error (htake.trans (bind_of_error hresult))]
    rw [htook]
    exact ⟨hidle, c, latest, hpassed₀, hafter⟩
  · let b₂ := b₁.note (.remarked (.resultNotReady (b.resource (b.job j).resource).id))
    have htook : j.take? ctx mode b = (.ok none, b₂) := by
      rw [take?, bind_of_ok (read_apply _ _), bind_of_ok (read_apply _ _),
        bind_of_ok (htake.trans (bind_of_ok hresult))]
      rfl
    rw [htook]
    exact ⟨hidle.trans (Idle.conversing.remarked b₁ _ rfl), c, latest, hpassed₀, hafter⟩
  · exact absurd (hreported.written_eq.symm.trans (hwritten hreported.isOk))
      (Option.some_ne_none value)

/-- A take that fails with a timeout did not come to the completion, unless the timeout is one that
the converter made. -/
theorem missed_of_timeout (hs : b.Stands j J) (hfit : b.Fit ctx) (hfree : (b.job j).taken = false)
    {mode : TakeMode} {e : Failure} (he : (j.take? ctx mode b).1 = .error e)
    (htimeout : e.isTimeout = true) (hconverter : (b.job j).converter = .reject e →
      (j.take? ctx mode b).2.conversionsOf j = b.conversionsOf j) :
    (J.attend b.machine.clock mode).1 = false := by
  rcases hfound : J.found b.machine.clock mode with status | _ | payload
  · obtain ⟨d, b', heq, -⟩ := take?_refused hs hfit hfree hfound
    rw [heq] at he
    obtain rfl := Except.error.inj he
    obtain rfl : status = .timeout := of_decide_eq_true htimeout
    obtain ⟨_, -, hmissed⟩ := Simulation.Job.found_eq_timeout.1 hfound
    exact hmissed
  · obtain ⟨b', heq, -⟩ := take?_notYet hs hfit hfree hfound
    rw [heq] at he
    cases he
  · obtain ⟨value, label, b', -, heq, -, hconversions, -⟩ :=
      (take?_result hs hfit hfree hfound).1
    have hreject : (b.job j).converter = .reject e := by
      rw [heq] at he
      exact (TakenValue.convert_timeout _ _).map b' e he htimeout
    rw [hconverter hreject] at hconversions
    exact absurd (List.self_eq_append_right.1 hconversions) (List.cons_ne_nil value [])

/-- A take that gives nothing did not come to the completion. -/
theorem missed_of_none (hs : b.Stands j J) (hfit : b.Fit ctx) {mode : TakeMode}
    (hnone : (j.take? ctx mode b).1 = .ok none) : (J.attend b.machine.clock mode).1 = false := by
  obtain ⟨-, rfl, hnot⟩ := (take?_eq_none hs hfit mode).1 hnone
  exact hnot

/-- With a closed context a take is refused. -/
theorem take?_of_not_passed (hlive : b.Live (b.job j).resource)
    (hfree : (b.job j).taken = false) (hclosed : b.passed ctx = none) (mode : TakeMode) :
    ∃ kind, (j.take? ctx mode b).1 = .error (.alreadyClosed kind) := by
  obtain ⟨valueOut, readyOut, b₀, hquiet, -, -, -, -, htake⟩ := takeOnce_of_open hlive.2 ctx mode
  rw [if_neg (Bool.eq_false_iff.1 hlive.1), if_neg (Bool.eq_false_iff.1 hfree)] at htake
  have hclosed₀ := (hquiet.passed ctx).trans hclosed
  obtain ⟨kind, b₁, hnative⟩ := takeNatively_of_not_passed ctx hclosed₀ (b.job j)
    (b.resource (b.job j).resource).handle valueOut readyOut mode
  refine ⟨kind, ?_⟩
  rw [take?, bind_of_ok (read_apply _ _), bind_of_ok (read_apply _ _),
    bind_of_error (htake.trans (bind_of_error hnative))]

end Job

end Elapses

/-! ## Vain calls -/

namespace Bridge

/-- **A call that asks for the completion of a job in vain**, and for how long it does: a wait that
is answered with no, a take that runs into its limit, a take that finds the result not ready.  A
converter that makes a timeout of its own was not invoked. -/
inductive Vain (b : Bridge Simulation) (j : Job) (ctx : Option Context) :
    {α : Type} → Operation Simulation α → Nat → Prop where
  | wait {limit : Nat} (no : (j.wait ctx limit b).1 = .ok false) :
    Vain b j ctx (.jobWait j ctx limit) (Duration.saturate limit)
  | takeFor {limit : Nat} {e : Failure} (fails : (j.takeFor ctx limit b).1 = .error e)
    (timeout : e.isTimeout = true) (converter : (b.job j).converter = .reject e →
      (j.takeFor ctx limit b).2.conversionsOf j = b.conversionsOf j) :
    Vain b j ctx (.jobTakeFor j ctx limit) (Duration.saturate limit)
  | takeIfReady (nothing : (j.takeIfReady ctx b).1 = .ok none) :
    Vain b j ctx (.jobTakeIfReady j ctx) 0

/-- The bridge after a sleep. -/
def slept (b : Bridge σ) (span : Nat) : Bridge σ :=
  (Operation.outside fun m => m.later span).after b

variable {b b' : Bridge Simulation} {j : Job} {J : Simulation.Job} {ctx : Option Context}
  {op : Operation Simulation α} {span : Nat}

theorem Vain.context?_eq (h : b.Vain j ctx op span) : op.context? = ctx := by
  cases h <;> rfl

/-- A vain call had a context to pass, if it was given one. -/
theorem Vain.passed (h : b.Vain j ctx op span) (hlive : b.Live (b.job j).resource)
    (hfree : (b.job j).taken = false) : b.passed ctx ≠ none := by
  intro hclosed
  cases h with
  | @wait limit no =>
    have hbarred : (j.wait ctx limit : Action Simulation Bool).Barred ctx :=
      .after (.read _) fun s => s.resource.query_barred ctx _ _
    obtain ⟨e, he⟩ := hbarred.2 b hclosed
    rw [he] at no
    cases no
  | takeFor fails timeout =>
    obtain ⟨kind, he⟩ := Job.take?_of_not_passed hlive hfree hclosed (.bounded _)
    rw [Job.takeExpecting_timeout fails timeout] at he
    cases he
    cases timeout
  | takeIfReady nothing =>
    obtain ⟨kind, he⟩ := Job.take?_of_not_passed hlive hfree hclosed .ifReady
    rw [Job.takeIfReady, he] at nothing
    cases nothing

/-- **A vain call comes to nothing.** -/
theorem Vain.elapses (h : b.Vain j ctx op span) (hs : b.Stands j J)
    (hfree : (b.job j).taken = false)
    (hlibrary : ∀ X, ctx = some X → (b.context X).library = Simulation.library) :
    b.Elapses ctx span (op.after b) := by
  have hfit := fit_of_passed (h.passed hs.live hfree) hlibrary
  cases h with
  | @wait limit no =>
    obtain ⟨b', heq, -⟩ := Job.wait_leaves hs hfit limit
    rw [heq] at no
    have helapses := Resource.query_elapses hs.live hfit .jobWait
      (fun c h => Simulation.library.entry.jobWait c h (Duration.saturate limit) true)
      fun c => jobWait_missed hs.native hs.unclosed (Except.ok.inj no) c
    rw [← hs.library] at helapses
    exact helapses
  | @takeFor limit e fails timeout converter =>
    rw [Job.takeFor, Job.takeExpecting_snd] at converter
    have hmissed := Job.missed_of_timeout hs hfit hfree
      (Job.takeExpecting_timeout fails timeout) timeout converter
    have helapses := Job.take?_elapses hs hfit hfree hmissed
    rw [← Job.takeExpecting_snd .jobTakeFor] at helapses
    exact helapses
  | takeIfReady nothing =>
    exact Job.take?_elapses hs hfit hfree (Job.missed_of_none hs hfit nothing)

/-- **What comes to nothing is a sleep**, but for what the context holds. -/
theorem Elapses.matches_slept (h : b.Elapses ctx span b') :
    ∃ slot latest, (∀ h, slot = some h → b.passed ctx = some (some h)) ∧
      (b.slept span).Matches (.slotted slot latest (b.slept span).journal b'.journal) b' := by
  obtain ⟨hidle, c, latest, hpassed, hmachine⟩ := h
  have hmatches (slot : Option Handle)
      (hslot : ∀ h, slot = some h → (b.machine.native.slot? h).isSome = true)
      (heq : b'.machine = (b.machine.later span).filed slot latest) :
      (b.slept span).Matches (.slotted slot latest (b.slept span).journal b'.journal) b' := {
    machine := heq
    holds := hslot
    latch := trivial
    managers := hidle.managers
    outline := hidle.outline
    resources := hidle.resources
    contexts := hidle.contexts
    jobs := hidle.known
    cancellations := hidle.cancellations
    process := congrArg Process.timeless hidle.process
    journal := ⟨[], (List.append_nil _).symm, (List.append_nil _).symm⟩ }
  -- A handle with no context of the library behind it holds nothing.
  cases c with
  | none => exact ⟨none, latest, nofun, hmatches none nofun hmachine⟩
  | some h =>
    cases hslot : (b.machine.native.slot? h).isSome with
    | true =>
      exact ⟨some h, latest, fun h' heq => heq ▸ hpassed,
        hmatches (some h) (fun h' heq => Option.some.inj heq ▸ hslot) hmachine⟩
    | false =>
      have hwild : (b.machine.later span).filed (some h) latest = b.machine.later span :=
        Machine.filed_of_wild latest hslot
      exact ⟨none, latest, nofun, hmatches none nofun (hmachine.trans hwild)⟩

end Bridge

/-! ## What follows -/

theorem Operation.Like.objects_eq {op op' : Operation σ α} (h : op.Like op') :
    op'.objects = op.objects := by
  cases h <;> rfl

/-- What can be called in one of two matching processes can be called in the other. -/
theorem Operation.Like.known {G : Guise σ} {op op' : Operation σ α} (h : op.Like op')
    {s p : Bridge σ} (hmatches : s.Matches G p) (known : op.Known s) : op'.Known p := by
  intro o ho
  rw [h.objects_eq] at ho
  exact (hmatches.has o).2 (known o ho)

namespace Run

/-- **The same calls in another process**, but for what is written to scratch memory and where. -/
inductive Echoes {s p : Bridge σ} : {s' p' : Bridge σ} → Run s s' → Run p p' → Prop where
  | done : Echoes .done .done
  | call {s' p' : Bridge σ} {α : Type} {run : Run s s'} {echo : Run p p'}
    (before : Echoes run echo) {op op' : Operation σ α} (like : op.Like op') (known : op.Known s')
    (known' : op'.Known p') : Echoes (run.call op known) (echo.call op' known')

variable {slot : Option Handle} {latest : Option Report} {said said' : List Event}
  {s s' p p' : Bridge Simulation}

/-- Are the calls of a run made on the terms, and without a context? -/
def Unaware (slot : Option Handle) (run : Run s s') : Prop :=
  run.All fun b op => op.On (.simulated slot) ∧ op.Without slot b

/-- A run over the simulated library stays on its terms. -/
theorem served_simulated (run : Run s s') (hrun : run.All fun _ op => op.On (.simulated slot))
    (hs : s.Served (.simulated slot)) : s'.Served (.simulated slot) :=
  (run.walk (fun l _ => Terms.moves_simulated slot l) hrun hs).2

/-- **Processes that match go on to match** as long as the context is not used. -/
theorem Echoes.matches {run : Run s s'} {echo : Run p p'} (h : run.Echoes echo)
    (hrun : run.Unaware slot) (hs : s.Served (.simulated slot))
    (hmatches : s.Matches (.slotted slot latest said said') p) :
    s'.Served (.simulated slot) ∧ s'.Matches (.slotted slot latest said said') p' := by
  induction h with
  | done => exact ⟨hs, hmatches⟩
  | @call s' p' α run echo before op op' like known known' ih =>
    obtain ⟨hserved, hbefore⟩ := ih hrun.1
    obtain ⟨hop, hwithout⟩ := hrun.2
    exact ⟨(Run.done.call op known).served_simulated ⟨trivial, hop⟩ hserved,
      (Operation.abreast_slotted like known hop hwithout hserved hbefore).bridge⟩

/-- Whatever is called in the one process can be called in the other. -/
theorem exists_echo (run : Run s s') (hrun : run.Unaware slot) (hs : s.Served (.simulated slot))
    (hmatches : s.Matches (.slotted slot latest said said') p) :
    ∃ (p' : Bridge Simulation) (echo : Run p p'), run.Echoes echo := by
  induction run with
  | done => exact ⟨p, .done, .done⟩
  | call run op known ih =>
    obtain ⟨p', echo, hecho⟩ := ih hrun.1
    have hbefore := (hecho.matches hrun.1 hs hmatches).2
    exact ⟨_, _, hecho.call (.same op) known ((Operation.Like.same op).known hbefore known)⟩

end Run

/-- **Nobody can tell two processes apart without a context.**  Whatever calls are made, they can be
made in both; they come to results that look the same, and the clocks show the same. -/
def Bridge.Indistinct (slot : Option Handle) (s p : Bridge Simulation) : Prop :=
  ∀ (s' : Bridge Simulation) (run : Run s s'), run.Unaware slot →
    (∃ (p' : Bridge Simulation) (echo : Run p p'), run.Echoes echo) ∧
    ∀ (p' : Bridge Simulation) (echo : Run p p'), run.Echoes echo →
      p'.machine.clock = s'.machine.clock ∧
      ∀ (α : Type) (op op' : Operation Simulation α), op.Like op' → op.Known s' →
        op.On (.simulated slot) → op.Without slot s' →
          Agree op.look (op.perform s').1 (op'.perform p').1 ∧
            (op'.after p').machine.clock = (op.after s').machine.clock

theorem Bridge.Matches.indistinct {slot : Option Handle} {latest : Option Report}
    {said said' : List Event} {s p : Bridge Simulation} (hs : s.Served (.simulated slot))
    (h : s.Matches (.slotted slot latest said said') p) : s.Indistinct slot p := by
  refine fun s' run hrun => ⟨run.exists_echo hrun hs h, fun p' echo hecho => ?_⟩
  obtain ⟨hserved, hmatches⟩ := hecho.matches hrun hs h
  refine ⟨hmatches.clock, fun α op op' hlike known hop hwithout => ?_⟩
  obtain ⟨hresult, hafter⟩ :=
    Operation.abreast_slotted hlike known hop hwithout hserved hmatches
  exact ⟨hresult, hafter.clock⟩

/-- **Unsuccessful polls consume nothing.**  Wherever a run over the simulated library has come, a
vain call on an open job whose result nobody took leaves what a sleep of the same length leaves: the
job and its cancel request, the mark, the remembered name, the registries, all other objects and the
probes.  Only scratch memory differs, and what the context that was passed holds.  Calls that are
made afterwards without that context come to the same as after the sleep. -/
theorem Run.polls_consume_nothing {native : Simulation} {env : Environment}
    {b : Bridge Simulation} (run : Run (.start native env) b)
    {ctx : Option Context} (hrun : run.All fun _ op => op.On (.simulated (b.passed ctx).join))
    {j : Job} {J : Simulation.Job} (hs : b.Stands j J) (hfree : (b.job j).taken = false)
    {op : Operation Simulation α} {span : Nat} (known : op.Known b)
    (hvain : b.Vain j ctx op span) :
    ∃ slot latest, (∀ h, slot = some h → b.passed ctx = some (some h)) ∧
      (b.slept span).Matches
        (.slotted slot latest (b.slept span).journal (op.after b).journal) (op.after b) ∧
      (op.after b).process = (b.slept span).process ∧
      (b.slept span).Indistinct slot (op.after b) := by
  have hserved := run.served_simulated hrun (.start _ native env)
  have hlibrary (X : Context) (hX : ctx = some X) :
      (b.context X).library = Simulation.library :=
    (hserved _ (known _ (op.mem_objects_context? (hvain.context?_eq.trans hX)))).1
  have helapses := hvain.elapses hs hfree hlibrary
  obtain ⟨slot, latest, hslot, hmatches⟩ := helapses.matches_slept
  -- What has nothing to do with the context that was passed has nothing to do with the slot.
  have hserved' : b.Served (.simulated slot) := hserved.mono (fun _ => id)
    fun f hf value h hh => by
      have hpassed : (b.passed ctx).join = some h := congrArg Option.join (hslot h hh)
      rw [hh, ← hpassed]
      exact hf value h hpassed
  let sleep : Run b (b.slept span) := Run.done.call (.outside fun m => m.later span) fun _ ho =>
    absurd ho List.not_mem_nil
  have hslept : (b.slept span).Served (.simulated slot) :=
    sleep.served_simulated (And.intro trivial fun _ => trivial) hserved'
  exact ⟨slot, latest, hslot, hmatches, helapses.idle.process, hmatches.indistinct hslept⟩

/-- A take with a context that runs into its limit, and a take without one afterwards. -/
theorem Run.polls_consume_nothing_of_timeout :
    let spec : JobSpec := ⟨"", some 10, .value 7, 5, none, none, none⟩
    let b₀ := Bridge.start ((default : Simulation).newJob spec 0).2 []
    let b₁ := (Operation.createManager 16).after b₀
    let b₂ := (Operation.createContext Simulation.library ⟨0⟩).after b₁
    let b := (Operation.adoptJob Simulation.library ⟨0⟩ (.ofIndex 0) .inspect).after b₂
    let poll : Operation Simulation Yield := .jobTakeFor ⟨0⟩ (some ⟨0⟩) 3
    let take : Operation Simulation Yield := .jobTake ⟨0⟩ none
    (∃ d, (Job.takeFor ⟨0⟩ (some ⟨0⟩) 3 b).1 = .error (.ofStatus .timeout d)) ∧
      (poll.after b).process = (b.slept 3).process ∧
      Agree take.look (take.perform (b.slept 3)).1 (take.perform (poll.after b)).1 ∧
      (take.after (poll.after b)).machine.clock = (take.after (b.slept 3)).machine.clock := by
  intro spec b₀ b₁ b₂ b poll take
  let run₁ : Run b₀ b₁ := Run.done.call (.createManager 16) (by decide)
  let run₂ : Run b₀ b₂ := run₁.call (.createContext Simulation.library ⟨0⟩) (by decide)
  let run : Run b₀ b :=
    run₂.call (.adoptJob Simulation.library ⟨0⟩ (.ofIndex 0) .inspect) (by decide)
  have hrun : run.All fun _ op => op.On (.simulated (b.passed (some ⟨0⟩)).join) :=
    And.intro (And.intro (And.intro trivial trivial) rfl) ⟨rfl, trivial⟩
  let J : Simulation.Job := ⟨spec, 0, false, false, none⟩
  have hs : b.Stands ⟨0⟩ J := ⟨by decide, ⟨by decide, by decide⟩, rfl, rfl, rfl⟩
  have hfree : (b.job ⟨0⟩).taken = false := rfl
  have hfit : b.Fit (some ⟨0⟩) := fit_of_passed (by decide) fun _ hX => Option.some.inj hX ▸ rfl
  have hconverter : (b.job ⟨0⟩).converter = .inspect := rfl
  have hmissed : (J.attend b.machine.clock (.bounded 3)).1 = false := rfl
  obtain ⟨⟨d, hfails⟩, -⟩ := Job.takeFor_missed hs hfit hfree hmissed
  have hvain : b.Vain ⟨0⟩ (some ⟨0⟩) poll 3 :=
    .takeFor hfails rfl fun h => nomatch hconverter.symm.trans h
  obtain ⟨slot, latest, -, -, hprocess, hindistinct⟩ :=
    Run.polls_consume_nothing run hrun hs hfree (by decide) hvain
  obtain ⟨-, hsame⟩ := hindistinct _ .done trivial
  obtain ⟨-, hlater⟩ := hsame _ .done .done
  obtain ⟨hresult, hclock⟩ := hlater Yield take take (.same take) (by decide) trivial
    ⟨trivial, fun _ _ _ h => h.elim nofun nofun⟩
  exact ⟨⟨d, hfails⟩, hprocess, hresult, hclock⟩

end HandleBridge
