import HandleBridge.Proofs.NativeAnswer

/-!
# Proofs/ClosedContexts — a call that is passed a closed context does not reach the native library

A context is looked at before the entry point is called, so with a closed one a call comes to
remarks and allocations and then fails: `Barred`.  What would come after it does not happen, so a
take obtains nothing to convert, and a cancel request gives nothing to adopt.
-/

namespace HandleBridge

open HandleBridge.Action

variable {σ α β : Type}

namespace Bridge

/-- **The machine is spared, and every object with it**, if the context is closed. -/
def Spares (ctx : Option Context) (b b' : Bridge σ) : Prop :=
  b.passed ctx = none → Quiet b b' ∧ b'.machine = b.machine

instance (ctx : Option Context) : IsPreorder (Bridge σ) (Spares ctx) where
  refl b _ := ⟨.refl b, rfl⟩
  trans _ _ _ h h' hclosed := by
    obtain ⟨hquiet, hmachine⟩ := h hclosed
    obtain ⟨hquiet', hmachine'⟩ := h' ((hquiet.passed ctx).trans hclosed)
    exact ⟨hquiet.trans hquiet', hmachine'.trans hmachine⟩

end Bridge

open Bridge

/-- **Does a call fail if its context is closed**, before it comes to the machine? -/
def Action.Barred (ctx : Option Context) (x : Action σ α) : Prop :=
  x.Ensures (Spares ctx) ∧ ∀ b : Bridge σ, b.passed ctx = none → ∃ e, (x b).1 = .error e

namespace Action.Barred

variable {ctx : Option Context} {x : Action σ α}

theorem fail (e : Failure) : (Action.fail e : Action σ α).Barred ctx :=
  ⟨.fail e, fun _ _ => ⟨e, rfl⟩⟩

/-- What comes after a call that fails does not happen. -/
theorem bind (hx : x.Barred ctx) (f : α → Action σ β) : (x >>= f).Barred ctx := by
  have hfails {b : Bridge σ} (hclosed : b.passed ctx = none) :
      ∃ e, (x >>= f) b = (.error e, (x b).2) := by
    obtain ⟨e, he⟩ := hx.2 b hclosed
    exact ⟨e, bind_of_error (Prod.ext he rfl)⟩
  refine ⟨fun b hclosed => ?_, fun b hclosed => ?_⟩ <;>
    obtain ⟨e, heq⟩ := hfails hclosed <;> rw [heq]
  · exact hx.1 b hclosed
  · exact ⟨e, rfl⟩

/-- A call fails wherever it stands. -/
theorem after (hx : x.Ensures (Spares ctx)) {f : α → Action σ β} (hf : ∀ a, (f a).Barred ctx) :
    (x >>= f).Barred ctx := by
  refine ⟨.bind hx fun a => (hf a).1, fun b hclosed => ?_⟩
  have hlater := ((hx b hclosed).1.passed ctx).trans hclosed
  rw [bind_apply]
  rcases h : x b with ⟨e | a, b'⟩ <;> rw [h] at hlater
  · exact ⟨e, rfl⟩
  · exact (hf a).2 b' hlater

theorem withHandle (r : Resource) {f : Handle → Action σ α} (hf : ∀ h, (f h).Barred ctx) :
    (r.withHandle f).Barred ctx := by
  refine .after (.read _) fun s => ?_
  split
  · exact .fail _
  · exact hf s.handle

end Action.Barred

/-! ## Calls of entry points -/

namespace Bridge.Spares

variable {ctx : Option Context}

theorem allocate (m : Manager) (cells : List Cell) :
    (m.allocate cells : Action σ Buffer).Ensures (Spares ctx) := by
  refine .bind (.read _) fun s => ?_
  split
  · exact .fail _
  · refine .bind (.read _) fun before => ?_
    refine .bind (fun b _ => ⟨.withScratch b _, rfl⟩) fun _ => ?_
    exact .bind (fun b _ => ⟨.charge b m _, rfl⟩) fun _ => .ofExcept _

theorem allocateFrom (r : Resource) (cells : List Cell) :
    (r.allocate cells : Action σ Buffer).Ensures (Spares ctx) :=
  .bind (.read _) fun s => allocate s.manager cells

end Bridge.Spares

/-- A call with a closed context comes to remarks and the refusal of the context. -/
theorem callNative_of_closed {c : Context} {b : Bridge σ}
    (hc : (b.resource (b.context c).resource).closed = true) (symbol : Symbol)
    (call : Option Handle → Action σ (Answer α)) :
    ∃ slow ended, callNative (some c) symbol call b =
      (.error (.alreadyClosed (b.resource (b.context c).resource).kind),
        ((b.note (.remarked (.nativeCall symbol true))).tell slow).note (.remarked ended)) := by
  let b₀ := b.note (.remarked (.nativeCall symbol true))
  have hc₀ : (b₀.resource (b₀.context c).resource).closed = true := hc
  have hunder : callUnder call (some c) b₀ =
      (.ok (none, .error (.alreadyClosed (b₀.resource (b₀.context c).resource).kind)), b₀) := by
    rw [callUnder, callWith, bind_of_ok (read_apply _ _), bind_of_ok (read_apply _ _), if_pos hc₀]
    rfl
  exact callNative_apply hunder

/-- A call has no context to pass if it was given one that is closed. -/
theorem Bridge.closed_of_not_passed {ctx : Option Context} {b : Bridge σ}
    (hclosed : b.passed ctx = none) :
    ∃ c, ctx = some c ∧ (b.resource (b.context c).resource).closed = true := by
  cases ctx with
  | none => exact absurd hclosed (Option.some_ne_none none)
  | some c =>
    refine ⟨c, rfl, ?_⟩
    by_contra hopen
    exact absurd ((if_neg hopen).symm.trans hclosed) (Option.some_ne_none _)

/-- A call that has no context to pass is refused before it comes to the machine. -/
theorem callNative_of_not_passed {ctx : Option Context} {b : Bridge σ}
    (hclosed : b.passed ctx = none) (symbol : Symbol)
    (call : Option Handle → Action σ (Answer α)) :
    ∃ kind b', callNative ctx symbol call b = (.error (.alreadyClosed kind), b') ∧ Quiet b b' ∧
      b'.machine = b.machine := by
  obtain ⟨c, rfl, hc⟩ := closed_of_not_passed hclosed
  obtain ⟨slow, ended, heq⟩ := callNative_of_closed hc symbol call
  let b₀ := b.note (.remarked (.nativeCall symbol true))
  have hquiet : Quiet b b₀ := .remarked b _
  exact ⟨_, _, heq, (hquiet.trans (.tell b₀ slow)).trans (.remarked _ ended), b₀.machine_tell slow⟩

/-- **With a closed context no entry point is called.** -/
theorem callNative_barred (ctx : Option Context) (symbol : Symbol)
    (call : Option Handle → Action σ (Answer α)) : (callNative ctx symbol call).Barred ctx := by
  refine ⟨fun b hclosed => ?_, fun b hclosed => ?_⟩ <;>
    obtain ⟨kind, b', heq, hspares⟩ := callNative_of_not_passed hclosed symbol call <;> rw [heq]
  · exact hspares
  · exact ⟨_, rfl⟩

theorem Resource.query_barred (r : Resource) (ctx : Option Context) (symbol : Symbol)
    (call : Option Handle → Option Handle → Call σ (Option Bool)) :
    (r.query ctx symbol call).Barred ctx :=
  .after (Spares.allocateFrom r _) fun _ => .withHandle r fun _ =>
    (callNative_barred ctx _ _).bind _

/-- The same of a question to the resource of an object. -/
theorem Resource.questions_barred {f : Bridge σ → β} (r : β → Resource) (ctx : Option Context)
    (symbol : Symbol) (call : β → Option Handle → Option Handle → Call σ (Option Bool)) :
    (.read f >>= fun s => (r s).query ctx symbol (call s) : Action σ Bool).Barred ctx :=
  .after (.read f) fun s => (r s).query_barred ctx symbol (call s)

namespace Job

variable (j : Job) (ctx : Option Context)

/-- A cancel request that is not made gives nothing to adopt. -/
theorem cancelAsync_barred : (j.cancelAsync ctx : Action σ _).Barred ctx :=
  .after (.read _) fun _ => .after (.read _) fun _ => .after (Spares.allocate _ _) fun _ =>
    .bind (.withHandle _ fun _ => callNative_barred ctx _ _) _

theorem takeNatively_barred (s : State σ) (h : Handle) (valueOut readyOut : Buffer)
    (mode : TakeMode) : (takeNatively s ctx h valueOut readyOut mode).Barred ctx := by
  cases mode with
  | blocking => exact (callNative_barred ctx _ _).bind _
  | bounded limit => exact (callNative_barred ctx _ _).bind _
  | ifReady => exact (callNative_barred ctx _ _).bind _

theorem takeNatively_of_not_passed {b : Bridge σ} (hclosed : b.passed ctx = none) (s : State σ)
    (h : Handle) (valueOut readyOut : Buffer) (mode : TakeMode) : ∃ kind b',
      takeNatively s ctx h valueOut readyOut mode b = (.error (.alreadyClosed kind), b') := by
  cases mode with
  | blocking =>
    obtain ⟨kind, b', heq, -⟩ := callNative_of_not_passed hclosed .jobTake _
    exact ⟨kind, b', bind_of_error heq⟩
  | bounded limit =>
    obtain ⟨kind, b', heq, -⟩ := callNative_of_not_passed hclosed .jobTakeFor _
    exact ⟨kind, b', bind_of_error heq⟩
  | ifReady =>
    obtain ⟨kind, b', heq, -⟩ := callNative_of_not_passed hclosed .jobTakeIfReady _
    exact ⟨kind, b', bind_of_error heq⟩

/-! ## Names and takes

A name that is known is given, and a take of a marked job is refused, without a call.
-/

theorem name_spares : (j.name ctx : Action σ String).Ensures (Spares ctx) := by
  refine .bind (.read _) fun s => ?_
  split
  · exact .pure _
  · refine .bind (.read _) fun s => .bind (Spares.allocateFrom _ _) fun out => ?_
    exact ((Barred.withHandle _ fun _ => callNative_barred ctx _ _).bind _).1

theorem label_spares : (j.label ctx : Action σ String).Ensures (Spares ctx) := by
  refine .bind (name_spares j ctx).attempt fun r => ?_
  split <;> exact .pure _

theorem takeOnce_spares (mode : TakeMode) :
    (j.takeOnce ctx mode : Action σ Take).Ensures (Spares ctx) := by
  refine .bind (.read _) fun s => .bind (.read _) fun r => .bind (Spares.allocate _ _) fun out => ?_
  refine .bind (Spares.allocate _ _) fun out' => .bind (.read _) fun s' => ?_
  split
  · exact .fail _
  split
  · exact .pure _
  · exact ((takeNatively_barred ctx _ _ _ _ mode).bind _).1

/-- A take obtains nothing, so there is nothing to convert. -/
theorem take?_spares (mode : TakeMode) : (j.take? ctx mode : Action σ _).Ensures (Spares ctx) := by
  refine .bind (.read _) fun s => .bind (.read _) fun r => fun b hclosed => ?_
  have hnone : b.handedOver j ctx mode = none := by
    rw [handedOver, hclosed]
    split
    · rfl
    · exact Option.bind_fun_none _
  refine Ensures.bind_at (takeOnce_spares j ctx mode b) (fun found hfound => ?_) hclosed
  rcases j.takeOnce_cases b ctx mode with ⟨value, _, hvalue, -⟩ | ⟨-, -, hnot⟩
  · exact absurd (hnone.symm.trans hvalue) (by simp)
  · cases found with
    | alreadyTaken => exact Ensures.bind (label_spares j ctx) (fun _ => .fail _) _
    | notReady =>
      exact Ensures.bind (R := Spares ctx) (fun b _ => ⟨.remarked b _, rfl⟩) (fun _ => .pure _) _
    | taken value => exact absurd hfound (hnot value)

end Job

end HandleBridge
