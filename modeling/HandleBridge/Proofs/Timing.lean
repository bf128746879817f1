import Mathlib.Algebra.Group.Nat.Defs
import HandleBridge.Proofs.Probes
import HandleBridge.Proofs.Statuses

/-!
# Proofs/Timing — the exact timing of calls with a limit

The simulated library compares an instant with a limit in two places, once for jobs and once for
cancel requests, and both compare the difference to the clock, not the sum.  `Timed` says what comes
out, in terms of the sum: whether the instant comes by the end of the span, and where the clock
stands then.  A wait that missed its instant ends at the end of its span, so a second wait takes up
where the first one left off.
-/

namespace HandleBridge

open HandleBridge.Action Bridge Simulation

/-! ## Instants and spans -/

namespace Duration

theorem saturate_of_le {span : Nat} (h : span ≤ longestNative) : saturate span = span :=
  Nat.min_eq_left h

end Duration

namespace Simulation

/-- **The timing of a wait** for an instant, which begins at some moment and lasts for a span at
most: whether the instant came, and the clock afterwards. -/
structure Timed (due : Option Nat) (now span : Nat) (came : Bool) (clock : Nat) : Prop where
  came : came = true ↔ ∃ instant, due = some instant ∧ instant ≤ now + span
  past : ∀ instant, due = some instant → instant ≤ now → clock = now
  ahead : ∀ instant, due = some instant → now < instant → instant ≤ now + span → clock = instant
  missed : (∀ instant, due = some instant → now + span < instant) → clock = now + span

variable {due : Option Nat} {now span : Nat}

theorem timed_await (due : Option Nat) (now span : Nat) :
    Timed due now span (await due (some span) now).1 (await due (some span) now).2 := by
  cases due with
  | none => exact ⟨by simp [await], nofun, nofun, fun _ => rfl⟩
  | some instant =>
    rw [await]
    split
    · exact ⟨by simp; omega, fun _ _ _ => rfl, fun i hi _ _ => by cases hi; omega,
        fun h => absurd (h instant rfl) (by omega)⟩
    · split
      · exact ⟨by simp; omega, fun i hi _ => by cases hi; omega, fun i hi _ _ => Option.some.inj hi,
          fun h => absurd (h instant rfl) (by omega)⟩
      · exact ⟨by simp; omega, fun i hi _ => by cases hi; omega,
          fun i hi _ _ => by cases hi; omega, fun _ => rfl⟩

/-- A wait that missed its instant can be taken up by another one. -/
theorem await_resume (more : Nat) (h : (await due (some span) now).1 = false) :
    await due (some more) (await due (some span) now).2 = await due (some (span + more)) now := by
  cases due with
  | none => simp [await, Nat.add_assoc]
  | some instant =>
    have htimed := timed_await (some instant) now span
    have hlate : now + span < instant := by
      refine Nat.lt_of_not_le fun hle => Bool.eq_false_iff.1 h (htimed.came.2 ⟨instant, rfl, hle⟩)
    rw [htimed.missed fun i hi => Option.some.inj hi ▸ hlate]
    simp only [await, if_neg (show ¬ instant ≤ now + span by omega),
      if_neg (show ¬ instant ≤ now by omega)]
    by_cases hmore : instant - (now + span) ≤ more
    · rw [if_pos hmore, if_pos (by omega)]
    · rw [if_neg hmore, if_neg (by omega), Nat.add_assoc]

end Simulation

/-! ## Calls with a limit -/

namespace Bridge

/-- **A question with a limit is timed**: it is answered with whether the instant came. -/
def Times (b : Bridge Simulation) (due : Option Nat) (limit : Nat)
    (x : Except Failure Bool × Bridge Simulation) : Prop :=
  ∃ came, x.1 = .ok came ∧
    Timed due b.machine.clock (Duration.saturate limit) came x.2.machine.clock

/-- **To wait in two parts is to wait in one**, under whatever contexts. -/
def Resumes (b : Bridge Simulation) (wait : Option Context → Nat → Action Simulation Bool) : Prop :=
  ∀ ctx ctx' whole limit more, b.Fit ctx → b.Fit ctx' → b.Fit whole →
    limit + more ≤ Duration.longestNative → (wait ctx limit b).1 = .ok false →
      (wait ctx' more (wait ctx limit b).2).1 = (wait whole (limit + more) b).1 ∧
      (wait ctx' more (wait ctx limit b).2).2.machine.clock =
        (wait whole (limit + more) b).2.machine.clock

variable {b : Bridge Simulation} {due : Option Nat} {limit : Nat}

theorem times_await {x : Except Failure Bool × Bridge Simulation}
    (hx : x.1 = .ok (await due (some (Duration.saturate limit)) b.machine.clock).1)
    (hclock : x.2.machine.clock =
      (await due (some (Duration.saturate limit)) b.machine.clock).2) : b.Times due limit x := by
  refine ⟨_, hx, ?_⟩
  rw [hclock]
  exact timed_await _ _ _

/-- A wait can be taken up if it comes to waiting for an instant, now and afterwards. -/
theorem resumes_of_await (due : Option Nat) {P : Bridge Simulation → Prop} (h : P b)
    {wait : Option Context → Nat → Action Simulation Bool}
    (hwait : ∀ {b' : Bridge Simulation} {ctx : Option Context} (limit : Nat), P b' → b'.Fit ctx →
      ∃ b'', wait ctx limit b' =
          (.ok (await due (some (Duration.saturate limit)) b'.machine.clock).1, b'') ∧
        Quiet b' b'' ∧ P b'' ∧ b''.machine.clock =
          (await due (some (Duration.saturate limit)) b'.machine.clock).2) :
    b.Resumes wait := by
  intro ctx ctx' whole limit more hfit hfit' hwhole hsum hmissed
  obtain ⟨b₁, hfirst, hquiet, h₁, hclock₁⟩ := hwait limit h hfit
  obtain ⟨b₂, hsecond, -, -, hclock₂⟩ := hwait more h₁ (hquiet.fit hfit')
  obtain ⟨b₃, hone, -, -, hclock₃⟩ := hwait (limit + more) h hwhole
  rw [hfirst] at hmissed ⊢
  rw [hsecond, hone, hclock₂, hclock₃, hclock₁]
  rw [Duration.saturate_of_le (by omega)] at hmissed ⊢
  rw [Duration.saturate_of_le (by omega), Duration.saturate_of_le hsum,
    await_resume more (Except.ok.inj hmissed)]
  exact ⟨rfl, rfl⟩

end Bridge

/-! ### Takes -/

/-- A result that is not there is told by a failure that is no timeout. -/
theorem Job.takeExpecting_timeout {symbol : Symbol} {take : Action Simulation (Option Yield)}
    {b : Bridge Simulation} {e : Failure} (he : (takeExpecting symbol take b).1 = .error e)
    (htimeout : e.isTimeout = true) : (take b).1 = .error e := by
  rw [takeExpecting] at he
  rcases h : take b with ⟨e' | _ | y, b'⟩
  · rw [bind_of_error h] at he
    cases he
    rfl
  · rw [bind_of_ok h] at he
    cases he
    exact Bool.noConfusion htimeout
  · rw [bind_of_ok h] at he
    cases he

/-- Only a converter that is made to reject with a timeout makes one. -/
theorem TakenValue.convert_timeout (value : TakenValue) (converter : Converter Simulation) :
    (value.convert converter).FailsAs fun e => e.isTimeout = true → converter = .reject e := by
  refine Action.FailsAs.convert (P := fun e => e.isTimeout = true → converter = .reject e) ?_ ?_
    (fun e he _ => he) value
  · exact fun htimeout => Bool.noConfusion htimeout
  · exact fun _ htimeout => Bool.noConfusion htimeout

namespace Job

variable {b : Bridge Simulation} {j : Job} {J : Simulation.Job} {ctx : Option Context}

/-- A take that came to the completion ends with a timeout only if the converter makes one. -/
theorem take?_timeout (hs : b.Stands j J) (hfit : b.Fit ctx) (hfree : (b.job j).taken = false)
    {mode : TakeMode} (hcame : (J.attend b.machine.clock mode).1 = true) {e : Failure}
    (he : (j.take? ctx mode b).1 = .error e) (htimeout : e.isTimeout = true) :
    (b.job j).converter = .reject e := by
  rcases hfound : J.found b.machine.clock mode with status | _ | payload
  · obtain ⟨d, b', heq, -⟩ := take?_refused hs hfit hfree hfound
    rw [heq] at he
    obtain rfl := Except.error.inj he
    have hstatus : status = .timeout := of_decide_eq_true htimeout
    obtain ⟨-, -, hnot⟩ := Simulation.Job.found_eq_timeout.1 (hstatus ▸ hfound)
    exact absurd (hcame.symm.trans hnot) (by decide)
  · obtain ⟨b', heq, -⟩ := take?_notYet hs hfit hfree hfound
    rw [heq] at he
    cases he
  · obtain ⟨value, label, b', -, heq, -⟩ := (take?_result hs hfit hfree hfound).1
    rw [heq] at he
    exact (TakenValue.convert_timeout _ _).map b' e he htimeout

end Job

/-- **A take with a limit is timed**: it ends with a timeout, and the result is still there, exactly
if the completion did not come.  A converter may make a timeout of its own. -/
def Bridge.TimesTake (b : Bridge Simulation) (j : Job) (due : Option Nat) (limit : Nat)
    (x : Except Failure Yield × Bridge Simulation) : Prop :=
  ∃ came, Timed due b.machine.clock (Duration.saturate limit) came x.2.machine.clock ∧
    (came = false → (∃ d, x.1 = .error (.ofStatus .timeout d)) ∧ (x.2.job j).taken = false) ∧
    (came = true → ∀ e, x.1 = .error e → e.isTimeout = true → (b.job j).converter = .reject e)

theorem Job.takeFor_missed {b : Bridge Simulation} {j : Job} {J : Simulation.Job}
    {ctx : Option Context} {limit : Nat} (hs : b.Stands j J) (hfit : b.Fit ctx)
    (hfree : (b.job j).taken = false)
    (hmissed : (J.attend b.machine.clock (.bounded limit)).1 = false) :
    (∃ d, (j.takeFor ctx limit b).1 = .error (.ofStatus .timeout d)) ∧
      ((j.takeFor ctx limit b).2.job j).taken = false := by
  obtain ⟨d, b', heq, hquiet, -⟩ :=
    take?_refused hs hfit hfree (Simulation.Job.found_eq_timeout.2 ⟨limit, rfl, hmissed⟩)
  have htake : j.takeFor ctx limit b = (.error (.ofStatus .timeout d), b') := bind_of_error heq
  rw [htake]
  exact ⟨⟨d, rfl⟩, (hquiet.taken j).trans hfree⟩

theorem Job.takeFor_times {b : Bridge Simulation} {j : Job} {J : Simulation.Job}
    {ctx : Option Context} (hs : b.Stands j J) (hfit : b.Fit ctx)
    (hfree : (b.job j).taken = false) (limit : Nat) :
    b.TimesTake j J.due limit (j.takeFor ctx limit b) := by
  have hclock := clock_take? hs hfit (.bounded limit)
  rw [hfree, if_neg Bool.false_ne_true, ← takeExpecting_snd .jobTakeFor] at hclock
  refine ⟨(J.attend b.machine.clock (.bounded limit)).1, ?_, takeFor_missed hs hfit hfree,
    fun hcame e he htimeout =>
      take?_timeout hs hfit hfree hcame (takeExpecting_timeout he htimeout) htimeout⟩
  rw [takeFor, hclock]
  exact timed_await _ _ _

/-! ### Cancel requests -/

theorem Cancellation.wait_times {b : Bridge Simulation} {c : Cancellation} {k : CancelJob}
    {ctx : Option Context} (hc : b.Tracks c k) (hfit : b.Fit ctx) (limit : Nat) :
    ∃ b', c.wait ctx limit b = (.ok (await (some k.doneAt) (some (Duration.saturate limit))
        b.machine.clock).1, b') ∧ Quiet b b' ∧ b'.Tracks c k ∧ b'.machine.clock =
      (await (some k.doneAt) (some (Duration.saturate limit)) b.machine.clock).2 := by
  obtain ⟨b', heq, hquiet, hlike⟩ := Resource.query_gives hc.live hfit
    (fun ctx h => Simulation.library.entry.cancelJobWait ctx h (Duration.saturate limit) true)
    fun ctx => cancelJobWait_gives hc.native ctx (Duration.saturate limit)
  have hcancellation : b'.cancellation c = b.cancellation c := by
    rw [cancellation, hquiet.cancellations, cancellation]
  refine ⟨b', ?_, hquiet, ⟨(hquiet.has _).2 hc.has, ?_, ?_, ?_⟩, hlike.clock⟩
  · rw [wait, bind_of_ok (read_apply _ _), hc.library]
    exact heq
  · rw [hcancellation]
    exact (Grows.quiet hquiet).live hc.live
  · rw [hcancellation]
    exact hc.library
  · rw [hcancellation, hquiet.resource, hlike.cancelJob?]
    exact hc.native

/-! ## All of them -/

end HandleBridge
