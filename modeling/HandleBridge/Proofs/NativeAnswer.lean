import HandleBridge.Proofs.TameCalls

/-!
# Proofs/NativeAnswer — the result of a call is what the native library says of the bridge before it

A native library is a function of its machine, and nothing moves the machine between the start of a
call and the entry point that it is about.  So the answer can be read off the bridge before the
call: `Bridge.handedOver` is the value that a take obtains, for every library and whatever it
answers.
-/

namespace HandleBridge

open HandleBridge.Action

variable {σ α : Type}

/-! ## What a call is made with -/

namespace Bridge

/-- What a call passes for its context: the handle of an open context, or null for none.  With a
closed context there is no call. -/
def passed (b : Bridge σ) : Option Context → Option (Option Handle)
  | none => some none
  | some c =>
    let s := b.resource (b.context c).resource
    if s.closed then none else some (some s.handle)

/-- The handle of an open resource of an open manager. -/
def reach (b : Bridge σ) (r : Resource) : Option Handle :=
  let s := b.resource r
  if s.closed || (b.manager s.manager).closed then none else some s.handle

theorem reach_of_open {b : Bridge σ} {r : Resource} (hr : (b.resource r).closed = false)
    (hm : (b.manager (b.resource r).manager).closed = false) :
    b.reach r = some (b.resource r).handle := by
  simp [reach, hr, hm]

theorem reach_of_closed {b : Bridge σ} {r : Resource} (hr : (b.resource r).closed = true) :
    b.reach r = none := by
  simp [reach, hr]

theorem reach_of_manager_closed {b : Bridge σ} {r : Resource}
    (hm : (b.manager (b.resource r).manager).closed = true) : b.reach r = none := by
  simp [reach, hm]

/-- The bridge after an allocation. -/
def spend (b : Bridge σ) (m : Manager) (scratch : Scratch) (cells : Nat) : Bridge σ :=
  (b.withScratch scratch).modifyManager m (·.charge cells)

theorem closed_spend (b : Bridge σ) (m m' : Manager) (scratch : Scratch) (cells : Nat) :
    ((b.spend m scratch cells).manager m').closed = (b.manager m').closed :=
  (Quiet.charge (b.withScratch scratch) m cells).closed m'

end Bridge

theorem Quiet.spend (b : Bridge σ) (m : Manager) (scratch : Scratch) (cells : Nat) :
    Quiet b (b.spend m scratch cells) := (withScratch b scratch).trans (charge _ m cells)

theorem Quiet.passed {b b' : Bridge σ} (h : Quiet b b') (ctx : Option Context) :
    b'.passed ctx = b.passed ctx := by
  cases ctx with
  | none => rfl
  | some c =>
    rw [Bridge.passed, Bridge.context, h.contexts, h.resource, Bridge.passed, Bridge.context]

/-- An open manager has memory to take. -/
theorem Manager.allocate_of_open {b : Bridge σ} {m : Manager} (h : (b.manager m).closed = false)
    (cells : List Cell) : ∃ out scratch n, m.allocate cells b = (.ok out, b.spend m scratch n) := by
  rw [Manager.allocate, allocating, bind_of_ok (read_apply _ _), if_neg (Bool.eq_false_iff.1 h)]
  exact ⟨_, _, _, rfl⟩

theorem Resource.withHandle_of_closed {b : Bridge σ} {r : Resource}
    (h : (b.resource r).closed = true) (f : Handle → Action σ α) :
    r.withHandle f b = (.error (.alreadyClosed (b.resource r).kind), b) := by
  rw [withHandle, bind_of_ok (read_apply _ _), if_pos h]
  rfl

theorem Resource.withHandle_of_open {b : Bridge σ} {r : Resource}
    (h : (b.resource r).closed = false) (f : Handle → Action σ α) :
    r.withHandle f b = f (b.resource r).handle b := by
  rw [withHandle, bind_of_ok (read_apply _ _), if_neg (Bool.eq_false_iff.1 h)]

/-! ## Calls with a result -/

theorem invokeInto_apply (out : Buffer) (cell : α → Cell) (symbol : Symbol) (target : Option Handle)
    (call : Call σ α) (b : Bridge σ) :
    ∃ b', Quiet b b' ∧ invokeInto out cell symbol target call b = (.ok (call b.machine).1, b') :=
  ⟨_, Quiet.invokeInto out cell symbol target call b, rfl⟩

theorem ask_total (symbol : Symbol) (getter : Option Handle → Bool → Call σ α) (ctx : Handle)
    (take : Answer α → Reading) : (ask symbol getter ctx take).Total := fun _ => ⟨_, rfl⟩

theorem readDiagnostic_total (entry : EntryPoints σ) (ctx : Handle) (status : Status) :
    (readDiagnostic entry ctx status).Total := by
  refine .bind (.bind (ask_total _ _ _ _) fun _ => ask_total _ _ _ _) fun r => ?_
  split
  · exact .bind (.bind (ask_total _ _ _ _) fun _ => .bind (ask_total _ _ _ _) fun _ =>
      .bind (ask_total _ _ _ _) fun _ => ask_total _ _ _ _) fun _ => .pure _
  · exact .pure _

theorem callAlone_result {native : Option Handle → Call σ α}
    {call : Option Handle → Action σ (Answer α)}
    (hcall : ∀ c b, (call c b).1 = .ok (native c b.machine).1) (b : Bridge σ) :
    ∃ status result, (callAlone call b).1 = .ok (status, result) ∧
      result.toOption = (b.passed none).bind fun c => (native c b.machine).1.success? := by
  have hb : call none b = (.ok (native none b.machine).1, (call none b).2) :=
    Prod.ext (hcall _ b) rfl
  refine ⟨_, _, congrArg Prod.fst (bind_of_ok hb), ?_⟩
  rw [Bridge.passed, Option.bind_some, Answer.success?]
  split <;> rfl

/-- What is read of the context after a failure does not change that it is one. -/
theorem callWith_result {c : Context} {native : Option Handle → Call σ α}
    {call : Option Handle → Action σ (Answer α)}
    (hcall : ∀ c b, (call c b).1 = .ok (native c b.machine).1) (b : Bridge σ) :
    ∃ status result, (callWith c call b).1 = .ok (status, result) ∧
      result.toOption = (b.passed (some c)).bind fun c => (native c b.machine).1.success? := by
  rw [callWith, bind_of_ok (read_apply _ _), bind_of_ok (read_apply _ _), Bridge.passed]
  split
  · exact ⟨_, _, rfl, rfl⟩
  · generalize (b.resource (b.context c).resource).handle = h
    have hb : call (some h) b = (.ok (native (some h) b.machine).1, (call (some h) b).2) :=
      Prod.ext (hcall _ b) rfl
    rw [bind_of_ok hb, Option.bind_some, Answer.success?]
    split
    · exact ⟨_, _, rfl, rfl⟩
    · obtain ⟨d, -, heq⟩ := (readDiagnostic_total (b.context c).library.entry h _).bind_eq _ _
      rw [heq]
      exact ⟨_, _, rfl, rfl⟩

/-- A call with a context or without, before anybody is told of it. -/
def callUnder (call : Option Handle → Action σ (Answer α)) :
    Option Context → Action σ (Option Status × Except Failure α)
  | none => callAlone call
  | some c => callWith c call

theorem callUnder_result {native : Option Handle → Call σ α}
    {call : Option Handle → Action σ (Answer α)}
    (hcall : ∀ c b, (call c b).1 = .ok (native c b.machine).1) (ctx : Option Context)
    (b : Bridge σ) :
    ∃ status result, (callUnder call ctx b).1 = .ok (status, result) ∧
      result.toOption = (b.passed ctx).bind fun c => (native c b.machine).1.success? := by
  cases ctx with
  | none => exact callAlone_result hcall b
  | some c => exact callWith_result hcall b

/-- Around a call there are remarks and nothing else. -/
theorem callNative_apply {ctx : Option Context} {symbol : Symbol}
    {call : Option Handle → Action σ (Answer α)} {b b' : Bridge σ} {status : Option Status}
    {result : Except Failure α}
    (h : callUnder call ctx (b.note (.remarked (.nativeCall symbol ctx.isSome))) =
      (.ok (status, result), b')) :
    ∃ slow ended,
      callNative ctx symbol call b = (result, (b'.tell slow).note (.remarked ended)) := by
  let span := b'.machine.clock - b.machine.clock
  refine ⟨Remark.ofNativeCall symbol span,
    .nativeCallEnded symbol (Duration.micros span) status, ?_⟩
  rw [callNative, bind_of_ok (remark_apply _ _), bind_of_ok (clock_apply _)]
  have hrest := bind_of_ok (f := fun _ =>
    .remark (.nativeCallEnded symbol (Duration.micros span) status) >>= fun _ => .ofExcept result)
    (remark?_apply (Remark.ofNativeCall symbol span) b')
  cases ctx <;> exact (bind_of_ok h).trans hrest

/-- **A call of an entry point** gives what was written, if it could be made and succeeded. -/
theorem callNative_toOption {ctx : Option Context} {symbol : Symbol}
    (native : Option Handle → Call σ α) {call : Option Handle → Action σ (Answer α)}
    (hcall : ∀ c b, (call c b).1 = .ok (native c b.machine).1) (b : Bridge σ) :
    (callNative ctx symbol call b).1.toOption =
      (b.passed ctx).bind fun c => (native c b.machine).1.success? := by
  obtain ⟨status, result, hok, hresult⟩ := callUnder_result hcall ctx
    (b.note (.remarked (.nativeCall symbol ctx.isSome)))
  obtain ⟨_, _, heq⟩ := callNative_apply (Prod.ext hok rfl)
  rw [heq]
  cases ctx <;> exact hresult

/-- A call that writes to scratch memory. -/
theorem callInto_apply (out : Buffer) (cell : α → Cell) (symbol : Symbol) (target : Option Handle)
    (native : Option Handle → Call σ α) (ctx : Option Context) (b : Bridge σ) :
    ∃ result b', Quiet b b' ∧
      callNative ctx symbol (fun c => invokeInto out cell symbol target (native c)) b =
        (result, b') ∧
      result.toOption = (b.passed ctx).bind fun c => (native c b.machine).1.success? :=
  ⟨_, _, Quiet.callNative ctx symbol (fun _ => .invokeInto _ _ _ _ _) b, rfl,
    callNative_toOption native (fun _ _ => rfl) b⟩

/-! ## Takes -/

/-- What the native library says about the result of a job: whether it lets the take through,
whether the result is ready, and the value. -/
def Job.State.answer (s : Job.State σ) (c : Option Handle) (h : Handle) (m : Machine σ) :
    TakeMode → Option (Option (Option Handle))
  | .blocking => (s.library.entry.jobTake c (some h) true m).1.success?.map some
  | .bounded limit =>
    (s.library.entry.jobTakeFor c (some h) (Duration.saturate limit) true m).1.success?.map some
  | .ifReady =>
    (s.library.entry.jobTakeIfReady c (some h) true true m).1.success?.map fun (ready, value) =>
      if ready.getD false then some value else none

theorem Action.map_toOption {β : Type} (x : Action σ α) (f : α → β) (b : Bridge σ) :
    ((f <$> x) b).1.toOption = (x b).1.toOption.map f := by
  rw [map_apply]
  rcases (x b).1 with e | a <;> rfl

theorem takeNatively_toOption (s : Job.State σ) (ctx : Option Context) (h : Handle)
    (valueOut readyOut : Buffer) (mode : TakeMode) (b : Bridge σ) :
    (Job.takeNatively s ctx h valueOut readyOut mode b).1.toOption =
      (b.passed ctx).bind fun c => s.answer c h b.machine mode := by
  cases mode with
  | blocking =>
    rw [Job.takeNatively, map_toOption,
      callNative_toOption (fun c => s.library.entry.jobTake c (some h) true) fun _ _ => rfl,
      Option.map_bind]
    rfl
  | bounded limit =>
    rw [Job.takeNatively, map_toOption, callNative_toOption
      (fun c => s.library.entry.jobTakeFor c (some h) (Duration.saturate limit) true)
      fun _ _ => rfl, Option.map_bind]
    rfl
  | ifReady =>
    rw [Job.takeNatively]
    refine (map_toOption _ (fun answer : Option Bool × Option Handle =>
      if answer.1.getD false then some answer.2 else none) b).trans ?_
    rw [callNative_toOption
      (fun c => s.library.entry.jobTakeIfReady c (some h) true true) fun _ _ => rfl,
      Option.map_bind]
    rfl

/-- The value that a take obtains: the result was not taken yet, the take can be made, and the
native library lets it through and says, if it is asked, that the result is ready. -/
def Bridge.handedOver (b : Bridge σ) (j : Job) (ctx : Option Context) (mode : TakeMode) :
    Option (Option Handle) :=
  if (b.job j).taken then none
  else (b.reach (b.job j).resource).bind fun h => (b.passed ctx).bind fun c =>
    ((b.job j).answer c h b.machine mode).join

theorem Bridge.handedOver_of_reach {b : Bridge σ} {j : Job} {h : Handle}
    (htaken : (b.job j).taken = false) (hreach : b.reach (b.job j).resource = some h)
    (ctx : Option Context) (mode : TakeMode) :
    b.handedOver j ctx mode =
      ((b.passed ctx).bind fun c => (b.job j).answer c h b.machine mode).join := by
  rw [handedOver, if_neg (Bool.eq_false_iff.1 htaken), hreach, Option.bind_some]
  cases b.passed ctx <;> rfl

/-- A take of a job of an open manager takes memory for what the library writes, and nothing has
happened otherwise when it comes to the job. -/
theorem Job.takeOnce_of_open {b : Bridge σ} {j : Job}
    (hm : (b.manager (b.resource (b.job j).resource).manager).closed = false) (ctx : Option Context)
    (mode : TakeMode) :
    ∃ valueOut readyOut b', Quiet b b' ∧ b'.machine = b.machine ∧ b'.jobs = b.jobs ∧
      b'.process = b.process ∧ b'.journal = b.journal ∧ j.takeOnce ctx mode b =
        if (b.resource (b.job j).resource).closed then
          (.error (.alreadyClosed (b.resource (b.job j).resource).kind), b')
        else if (b.job j).taken then (.ok .alreadyTaken, b')
        else (do
          match ← takeNatively (b.job j) ctx (b.resource (b.job j).resource).handle valueOut
            readyOut mode with
          | none => return .notReady
          | some value =>
            .update (·.modifyJob j (·.markTaken))
            return .taken value : Action σ Take) b' := by
  let m := (b.resource (b.job j).resource).manager
  obtain ⟨valueOut, scratch, n, halloc⟩ := Manager.allocate_of_open hm [.ofHandle none]
  obtain ⟨readyOut, scratch', n', halloc'⟩ :=
    Manager.allocate_of_open ((b.closed_spend m m scratch n).trans hm) [.flag false]
  refine ⟨valueOut, readyOut, (b.spend m scratch n).spend m scratch' n',
    (Quiet.spend b m scratch n).trans (Quiet.spend _ m scratch' n'), rfl, rfl, rfl, rfl, ?_⟩
  rw [takeOnce, bind_of_ok (read_apply _ _), bind_of_ok (read_apply _ _), bind_of_ok halloc,
    bind_of_ok halloc', Resource.withHandle, bind_of_ok (read_apply _ _)]
  change (if (b.resource (b.job j).resource).closed then _ else _ : Action σ Take) _ = _
  split
  · rfl
  · split <;> rfl

/-- **A take marks the job exactly when it obtains the value**, and changes nothing else. -/
theorem Job.takeOnce_cases (b : Bridge σ) (j : Job) (ctx : Option Context) (mode : TakeMode) :
    (∃ value b', b.handedOver j ctx mode = some value ∧ Quiet b b' ∧
      j.takeOnce ctx mode b = (.ok (.taken value), b'.modifyJob j (·.markTaken))) ∨
    b.handedOver j ctx mode = none ∧ Quiet b (j.takeOnce ctx mode b).2 ∧
      ∀ value, (j.takeOnce ctx mode b).1 ≠ .ok (.taken value) := by
  have hfail (hreach : b.reach (b.job j).resource = none) : b.handedOver j ctx mode = none := by
    rw [Bridge.handedOver, hreach]
    split <;> rfl
  cases hm : (b.manager (b.resource (b.job j).resource).manager).closed with
  | true =>
    rw [takeOnce_of_closed hm]
    exact .inr ⟨hfail (Bridge.reach_of_manager_closed hm), .refl b, fun _ => by simp⟩
  | false =>
    obtain ⟨valueOut, readyOut, b', hquiet, hmachine, -, -, -, heq⟩ := takeOnce_of_open hm ctx mode
    rw [heq]
    split
    · rename_i hclosed
      exact .inr ⟨hfail (Bridge.reach_of_closed hclosed), hquiet, fun _ => by simp⟩
    rename_i hopen
    split
    · rename_i htaken
      exact .inr ⟨if_pos htaken, hquiet, fun _ => by simp⟩
    rename_i htaken
    have hover := Bridge.handedOver_of_reach (Bool.eq_false_iff.2 htaken)
      (Bridge.reach_of_open (Bool.eq_false_iff.2 hopen) hm) ctx mode
    have hanswer := takeNatively_toOption (b.job j) ctx (b.resource (b.job j).resource).handle
      valueOut readyOut mode b'
    have hnative := Quiet.takeNatively (b.job j) ctx (b.resource (b.job j).resource).handle
      valueOut readyOut mode b'
    rw [hquiet.passed, hmachine] at hanswer
    rw [← hanswer] at hover
    rcases hresult : takeNatively (b.job j) ctx (b.resource (b.job j).resource).handle valueOut
      readyOut mode b' with ⟨e | _ | value, b''⟩ <;> rw [hresult] at hover hnative
    · rw [bind_of_error hresult]
      exact .inr ⟨hover, hquiet.trans hnative, fun _ => by simp⟩
    · rw [bind_of_ok hresult]
      exact .inr ⟨hover, hquiet.trans hnative, fun _ => by simp⟩
    · rw [bind_of_ok hresult]
      exact .inl ⟨value, b'', hover, hquiet.trans hnative, rfl⟩

theorem Job.label_total (j : Job) (ctx : Option Context) : (j.label ctx : Action σ _).Total := by
  refine .bind (.attempt _) fun r => ?_
  split <;> exact .pure _

theorem Job.converter_modifyJob (b : Bridge σ) (j : Job) :
    ((b.modifyJob j (·.markTaken)).job j).converter = (b.job j).converter :=
  b.jobs.get_modify_congr _ Job.State.converter _ _ fun _ => rfl

/-- After a take obtained a value the job is marked and its name is looked up; then the converter
has its turn. -/
theorem Job.take?_of_some {b : Bridge σ} {j : Job} {ctx : Option Context} {mode : TakeMode}
    {value : Option Handle} (h : b.handedOver j ctx mode = some value) :
    ∃ b₀ b₁ label, Quiet b b₀ ∧ Quiet (b₀.modifyJob j (·.markTaken)) b₁ ∧
      j.take? ctx mode b =
        (some <$> TakenValue.convert
          ⟨value, (b.resource (b.job j).resource).manager, (b.job j).library.origin, label⟩
          (b.job j).converter) (b₁.note (.converted j value)) := by
  rcases j.takeOnce_cases b ctx mode with ⟨value', b₀, hvalue, hquiet, htake⟩ | ⟨hnone, -⟩
  · obtain rfl : value = value' := Option.some.inj (h.symm.trans hvalue)
    obtain ⟨label, -, hlabel⟩ := (j.label_total ctx).bind_eq
      (fun label => some <$> j.convert ⟨value, (b.resource (b.job j).resource).manager,
        (b.job j).library.origin, label⟩)
      ((b₀.modifyJob j (·.markTaken)).note
        (.remarked (.resultTaken (b.resource (b.job j).resource).id mode value.isSome)))
    have hrest := (Quiet.remarked (b₀.modifyJob j (·.markTaken)) (.resultTaken
      (b.resource (b.job j).resource).id mode value.isSome)).trans (Quiet.label j ctx _)
    refine ⟨b₀, _, label, hquiet, hrest, ?_⟩
    rw [take?, bind_of_ok (read_apply _ _), bind_of_ok (read_apply _ _), bind_of_ok htake]
    refine (bind_of_ok (remark_apply _ _)).trans (hlabel.trans ?_)
    rw [map_apply, map_apply, convert, bind_of_ok (note_apply _ _), bind_of_ok (read_apply _ _)]
    have hconverter := (hrest.jobConverter j).trans
      ((converter_modifyJob b₀ j).trans (hquiet.jobConverter j))
    rw [show ∀ b e, (Bridge.note b e).job j = b.job j from fun _ _ => rfl, hconverter]
  · exact absurd (hnone.symm.trans h) (by simp)

/-- A take that obtains no value leaves every object as it was. -/
theorem Job.take?_of_none {b : Bridge σ} {j : Job} {ctx : Option Context} {mode : TakeMode}
    (h : b.handedOver j ctx mode = none) : Quiet b (j.take? ctx mode b).2 := by
  rcases j.takeOnce_cases b ctx mode with ⟨value, _, hvalue, -⟩ | ⟨-, hquiet, hnot⟩
  · exact absurd (h.symm.trans hvalue) (by simp)
  · rw [take?, bind_of_ok (read_apply _ _), bind_of_ok (read_apply _ _), bind_apply]
    rcases htake : j.takeOnce ctx mode b with ⟨e | answer, b'⟩ <;> rw [htake] at hquiet hnot
    · exact hquiet
    · cases answer with
      | alreadyTaken =>
        exact hquiet.trans (Ensures.bind (.label j ctx) (fun _ => .fail _) b' : Quiet b' _)
      | notReady => exact hquiet.trans (Ensures.bind (.remark _) (fun _ => .pure _) b' : Quiet b' _)
      | taken value => exact absurd rfl (hnot value)

end HandleBridge
