import HandleBridge.Proofs.Asking

/-!
# Proofs/QuietCalls — what only asks, allocates or remembers is quiet

One lemma for each call that leaves the objects alone, all of them instances of what `Bridge.Asking`
says.  A call of an entry point is quiet whatever the entry point does, because a native library
reaches nothing but its own memory and the clock.
-/

namespace HandleBridge

open HandleBridge.Action

variable {σ α : Type}

theorem TakenValue.convert_of_kept {value : TakenValue} {converter : Converter σ} {h : Handle}
    (hkept : value.kept converter = some h) :
    ∃ kind releaser, value.convert converter =
      (do return .resource (← Resource.adopt value.manager h kind releaser) : Action σ Yield) := by
  cases converter with
  | adopt kind dispose failure =>
    have hvalue : value.handle = some h := hkept
    rw [TakenValue.convert, hvalue]
    exact ⟨kind, .native none dispose failure, rfl⟩
  | _ => cases hkept

/-! ## Conversations -/

namespace Quiet

/-- A native library reaches nothing but its own memory and the clock, and a name that was looked up
is no part of what a job is. -/
theorem asking : Bridge.Asking (Quiet : Bridge σ → Bridge σ → Prop) where
  machine := withMachine
  called := called
  remarked b r _ := remarked b r
  scratch := withScratch
  charge := charge
  remember := remember
  process := modifyProcess

theorem run (f : Machine σ → α × Machine σ) : (Action.run f).Ensures Quiet := asking.run f

theorem remark (r : Remark) : (Action.remark r : Action σ Unit).Ensures Quiet :=
  fun b => remarked b r

theorem remark? (r : Option Remark) : (Action.remark? r : Action σ Unit).Ensures Quiet := by
  intro b
  rw [remark?_apply]
  exact tell b r

theorem clock : (Action.clock : Action σ Nat).Ensures Quiet := .read _

theorem allocating (m : Manager) (f : Scratch → Except Failure α × Scratch) :
    (m.allocating f : Action σ α).Ensures Quiet := asking.allocating m f

theorem allocate (m : Manager) (cells : List Cell) :
    (m.allocate cells : Action σ _).Ensures Quiet := asking.allocate m cells

theorem allocateFrom (r : Resource) (cells : List Cell) :
    (r.allocate cells : Action σ _).Ensures Quiet := asking.allocateFrom r cells

theorem put (buffer : Buffer) (offset : Nat) (cell : Cell) :
    (Manager.put buffer offset cell : Action σ Unit).Ensures Quiet :=
  asking.put buffer offset cell

theorem withHandle (r : Resource) {f : Handle → Action σ α} (hf : ∀ h, (f h).Ensures Quiet) :
    (r.withHandle f).Ensures Quiet := Bridge.Conversing.withHandle r hf

theorem invoke (symbol : Symbol) (target : Option Handle) (call : Call σ α) :
    (HandleBridge.invoke symbol target call).Ensures Quiet := asking.invoke symbol target call

theorem invokeInto (out : Buffer) (cell : α → Cell) (symbol : Symbol) (target : Option Handle)
    (call : Call σ α) : (HandleBridge.invokeInto out cell symbol target call).Ensures Quiet :=
  asking.invokeInto out cell symbol target call

theorem callNative (ctx : Option Context) (symbol : Symbol)
    {call : Option Handle → Action σ (Answer α)} (hc : ∀ c, (call c).Ensures Quiet) :
    (HandleBridge.callNative ctx symbol call).Ensures Quiet := asking.callNative ctx symbol hc

/-! ## Jobs -/

theorem name (j : Job) (ctx : Option Context) : (j.name ctx : Action σ _).Ensures Quiet :=
  asking.name j ctx

theorem label (j : Job) (ctx : Option Context) : (j.label ctx : Action σ _).Ensures Quiet :=
  asking.label j ctx

theorem takeNatively (s : Job.State σ) (ctx : Option Context) (h : Handle)
    (valueOut readyOut : Buffer) (mode : TakeMode) :
    (Job.takeNatively s ctx h valueOut readyOut mode).Ensures Quiet :=
  asking.takeNatively s ctx h valueOut readyOut mode

/-- A converter that puts nothing under management may remark on it. -/
theorem convert {value : TakenValue} {converter : Converter σ}
    (hkept : value.kept converter = none) : (value.convert converter).Ensures Quiet :=
  asking.convert hkept

end Quiet

/-! ## Operations -/

/-- **What only asks is quiet.** -/
theorem Operation.quiet (op : Operation σ α) (h : op.asks = true) (b : Bridge σ) :
    Quiet b (op.after b) := Quiet.asking.operation op h b

end HandleBridge
