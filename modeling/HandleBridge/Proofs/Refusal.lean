import HandleBridge.Proofs.NativeAnswer

/-!
# Proofs/Refusal — what a take that comes too late asks the native library

The journal notes each call of an entry point, so what a step asked is what its calls added there.
A take of a job whose result was taken asks for the job's name and for nothing else, and not even
that once the name is known.  Only when the library does not give the name, and the take was passed
a context, is that context read: the failure of the lookup is a failed call like any other.
-/

namespace HandleBridge

open HandleBridge.Action

variable {σ α : Type}

/-! ## The calls in a journal -/

/-- The call of an entry point that an event stands for: which one, and what it was called on. -/
def Event.call? : Event → Option (Symbol × Option Handle)
  | called symbol target => some (symbol, target)
  | _ => none

/-- Is the entry point one that a failed call reads its context with? -/
def Symbol.readsDiagnostic : Symbol → Bool
  | contextErrorName | contextErrorMessage | contextCategoryNumber | contextCategoryText
  | contextCodeNumber | contextStructuredCode => true
  | _ => false

namespace Bridge

/-- The entry points called so far, in order, each with what it was called on. -/
def calls (b : Bridge σ) : List (Symbol × Option Handle) := b.journal.filterMap Event.call?

theorem calls_note (b : Bridge σ) (e : Event) : (b.note e).calls = b.calls ++ e.call?.toList := by
  rw [calls, note, List.filterMap_append, calls]
  cases h : e.call? <;> simp [h]

theorem calls_remarked (b : Bridge σ) (r : Remark) : (b.note (.remarked r)).calls = b.calls :=
  (b.calls_note _).trans (List.append_nil _)

theorem calls_tell (b : Bridge σ) (r : Option Remark) : (b.tell r).calls = b.calls := by
  cases r with
  | none => rfl
  | some r => exact b.calls_remarked r

/-- Nothing was called in between but what reads a context. -/
def Reads (c : Handle) (b b' : Bridge σ) : Prop :=
  ∃ read, b'.calls = b.calls ++ read ∧ ∀ e ∈ read, e.1.readsDiagnostic = true ∧ e.2 = some c

namespace Reads

variable {c : Handle}

instance : IsPreorder (Bridge σ) (Reads c) where
  refl b := ⟨[], (List.append_nil _).symm, fun _ he => absurd he List.not_mem_nil⟩
  trans b b' b'' := by
    rintro ⟨read, hcalls, hread⟩ ⟨read', hcalls', hread'⟩
    refine ⟨read ++ read', ?_, fun e he => ?_⟩
    · rw [hcalls', hcalls, List.append_assoc]
    · rcases List.mem_append.1 he with he | he
      · exact hread e he
      · exact hread' e he

theorem ask {symbol : Symbol} (h : symbol.readsDiagnostic = true)
    (getter : Option Handle → Bool → Call σ α) (take : Answer α → Reading) :
    (ask symbol getter c take).Ensures (Reads c) := by
  intro b
  refine ⟨[(symbol, some c)], b.calls_note (.called symbol (some c)), fun e he => ?_⟩
  rw [List.mem_singleton.1 he]
  exact ⟨h, rfl⟩

theorem readDiagnostic (entry : EntryPoints σ) (status : Status) :
    (readDiagnostic entry c status).Ensures (Reads c) := by
  refine .bind (.bind (ask rfl _ _) fun _ => ask rfl _ _) fun r => ?_
  split
  · exact .bind (.bind (ask rfl _ _) fun _ => .bind (ask rfl _ _) fun _ =>
      .bind (ask rfl _ _) fun _ => ask rfl _ _) fun _ => .pure _
  · exact .pure _

end Reads

/-- **What a call of an entry point calls**: nothing if its context is closed, and else that entry
point, and what reads the context if there is one and the call fails. -/
structure Asks (ctx : Option Context) (symbol : Symbol) (target : Option Handle) (answered : Bool)
    (b b' : Bridge σ) : Prop where
  closed : b.passed ctx = none → b'.calls = b.calls
  passed : ∀ c, b.passed ctx = some c → ∃ read, b'.calls = b.calls ++ (symbol, target) :: read ∧
    (answered = true ∨ c = none → read = []) ∧
    ∀ e ∈ read, e.1.readsDiagnostic = true ∧ e.2 = c

end Bridge

/-! ## What a call of an entry point calls -/

section Calls

variable {symbol : Symbol} {target : Option Handle} (native : Option Handle → Call σ α)
  {call : Option Handle → Action σ (Answer α)}

/-- Without a context, and with a closed one, nothing is read. -/
theorem callUnder_calls (hcall : ∀ c b, (call c b).1 = .ok (native c b.machine).1)
    (hcalls : ∀ c b, (call c b).2.calls = b.calls ++ [(symbol, target)])
    (ctx : Option Context) (b : Bridge σ) :
    b.Asks ctx symbol target ((b.passed ctx).bind fun c => (native c b.machine).1.success?).isSome
      (callUnder call ctx b).2 := by
  have hcall' (c : Option Handle) :
      call c b = (.ok (native c b.machine).1, (call c b).2) := Prod.ext (hcall c b) rfl
  cases ctx with
  | none =>
    refine ⟨fun h => absurd h (Option.some_ne_none _), fun c _ => ?_⟩
    refine ⟨[], ?_, fun _ => rfl, fun _ he => absurd he List.not_mem_nil⟩
    rw [callUnder, callAlone, bind_of_ok (hcall' none)]
    exact hcalls none b
  | some context =>
    rw [callUnder, callWith, bind_of_ok (read_apply _ _), bind_of_ok (read_apply _ _)]
    cases hclosed : (b.resource (b.context context).resource).closed with
    | true =>
      have hpassed : b.passed (some context) = none := if_pos hclosed
      exact ⟨fun _ => rfl, fun c hc => absurd (hpassed.symm.trans hc) (Option.some_ne_none c).symm⟩
    | false =>
      generalize hhandle : (b.resource (b.context context).resource).handle = handle
      have hpassed : b.passed (some context) = some (some handle) := by
        rw [← hhandle]
        exact if_neg (Bool.eq_false_iff.1 hclosed)
      refine ⟨fun hnone => absurd (hpassed.symm.trans hnone) (Option.some_ne_none _),
        fun c hc => ?_⟩
      obtain rfl : some handle = c := Option.some.inj (hpassed.symm.trans hc)
      rw [if_neg Bool.false_ne_true, bind_of_ok (hcall' _), hpassed, Option.bind_some,
        Answer.success?]
      split
      · exact ⟨[], hcalls _ b, fun _ => rfl, fun _ he => absurd he List.not_mem_nil⟩
      · obtain ⟨_, -, heq⟩ := (readDiagnostic_total (b.context context).library.entry handle
          (native (some handle) b.machine).1.status).bind_eq _ _
        obtain ⟨read, hread, hall⟩ := Bridge.Reads.readDiagnostic (b.context context).library.entry
          (native (some handle) b.machine).1.status (call (some handle) b).2
        refine ⟨read, ?_, fun hnone => by simp at hnone, hall⟩
        rw [heq]
        exact hread.trans (by rw [hcalls, List.append_assoc]; rfl)

/-- A call of an entry point that answers calls that entry point and nothing else. -/
theorem callNative_calls (hcall : ∀ c b, (call c b).1 = .ok (native c b.machine).1)
    (hcalls : ∀ c b, (call c b).2.calls = b.calls ++ [(symbol, target)])
    (ctx : Option Context) (b : Bridge σ) :
    b.Asks ctx symbol target (callNative ctx symbol call b).1.toOption.isSome
      (callNative ctx symbol call b).2 := by
  let b₀ := b.note (.remarked (.nativeCall symbol ctx.isSome))
  have hpassed : b₀.passed ctx = b.passed ctx := (Quiet.remarked b _).passed ctx
  have hstart : b₀.calls = b.calls := b.calls_remarked _
  have hmade := callUnder_calls native hcall hcalls ctx b₀
  obtain ⟨status, result, hok, hresult⟩ := callUnder_result hcall ctx b₀
  obtain ⟨slow, ended, heq⟩ := callNative_apply (Prod.ext hok rfl)
  have hend : (callNative ctx symbol call b).2.calls = (callUnder call ctx b₀).2.calls := by
    rw [heq, Bridge.calls_remarked, Bridge.calls_tell]
  rw [show (callNative ctx symbol call b).1 = result from congrArg Prod.fst heq, hresult]
  refine ⟨fun hnone => ?_, fun c hc => ?_⟩
  · rw [hend, hmade.closed (hpassed.trans hnone), hstart]
  · rw [hend, ← hstart]
    exact hmade.passed c (hpassed.trans hc)

end Calls

theorem invokeInto_calls (out : Buffer) (cell : α → Cell) (symbol : Symbol) (target : Option Handle)
    (call : Call σ α) (b : Bridge σ) :
    (invokeInto out cell symbol target call b).2.calls = b.calls ++ [(symbol, target)] :=
  b.calls_note (.called symbol target)

/-! ## The name of a job -/

namespace Bridge

/-- The name that the library gives for a job, if the library can be asked and gives one. -/
def nameGiven (b : Bridge σ) (j : Job) (ctx : Option Context) : Option String :=
  (b.passed ctx).bind fun c =>
    ((b.job j).library.entry.jobName c (some (b.resource (b.job j).resource).handle) true
      b.machine).1.success?.map fun name => (readText name.join).getD ""

/-- What messages call a job: its name, if it is known or the library gives it. -/
def label (b : Bridge σ) (j : Job) (ctx : Option Context) : String :=
  ((b.job j).name.or (b.nameGiven j ctx)).getD "?"

/-- What the label of a job costs: nothing if the name is known. -/
structure Labels (ctx : Option Context) (j : Job) (b b' : Bridge σ) : Prop where
  known : (b.job j).name ≠ none → b'.calls = b.calls
  unknown : (b.job j).name = none → b.Asks ctx .jobName
    (some (b.resource (b.job j).resource).handle) (b.nameGiven j ctx).isSome b'

end Bridge

namespace Job

variable {b : Bridge σ} {j : Job}

/-- **Looking up a name** asks the library once, and remembers the answer. -/
theorem lookUpName_apply (hlive : b.Live (b.job j).resource) (ctx : Option Context) :
    (j.lookUpName ctx b).1.toOption = b.nameGiven j ctx ∧
    b.Asks ctx .jobName (some (b.resource (b.job j).resource).handle) (b.nameGiven j ctx).isSome
      (j.lookUpName ctx b).2 := by
  let s := b.job j
  let target := some (b.resource s.resource).handle
  obtain ⟨out, scratch, n, halloc⟩ := Manager.allocate_of_open hlive.2 [.ofString none]
  let b₁ := b.spend (b.resource s.resource).manager scratch n
  have halloc' : s.resource.allocate [.ofString none] b = (.ok out, b₁) := by
    rw [Resource.allocate, bind_of_ok (read_apply _ _), halloc]
  have hpassed : b₁.passed ctx = b.passed ctx := (Quiet.spend b _ scratch n).passed ctx
  let native := fun c => s.library.entry.jobName c target true
  let x := callNative ctx .jobName fun c => invokeInto out .ofString .jobName target (native c)
  have hask : s.resource.withHandle (fun h => callNative ctx .jobName fun c => invokeInto out
      .ofString .jobName (some h) (s.library.entry.jobName c (some h) true)) b₁ = x b₁ :=
    Resource.withHandle_of_open (b := b₁) hlive.1 _
  have hresult : (x b₁).1.toOption =
      (b₁.passed ctx).bind fun c => (native c b.machine).1.success? :=
    callNative_toOption native (fun _ _ => rfl) b₁
  have hname : b.nameGiven j ctx =
      (x b₁).1.toOption.map fun name => (readText name.join).getD "" := by
    rw [hresult, hpassed, Option.map_bind]
    rfl
  have hcalls : b₁.Asks ctx .jobName target (x b₁).1.toOption.isSome (x b₁).2 :=
    callNative_calls native (fun _ _ => rfl)
      (fun c => invokeInto_calls out .ofString .jobName target (native c)) ctx b₁
  have hrest : (j.lookUpName ctx b).1.toOption = b.nameGiven j ctx ∧
      (j.lookUpName ctx b).2.calls = (x b₁).2.calls := by
    rw [hname, lookUpName, bind_of_ok (read_apply _ _), bind_of_ok halloc', bind_apply, hask]
    rcases x b₁ with ⟨e | name, b'⟩ <;> exact ⟨rfl, rfl⟩
  refine ⟨hrest.1, fun hnone => hrest.2.trans (hcalls.closed (hpassed.trans hnone)), fun c hc => ?_⟩
  rw [hrest.2, hname, Option.isSome_map]
  exact hcalls.passed c (hpassed.trans hc)

/-- A label is the name that is given, or a question mark if none is. -/
theorem label_eq (j : Job) (ctx : Option Context) (b : Bridge σ) :
    j.label ctx b = (.ok ((j.name ctx b).1.toOption.getD "?"), (j.name ctx b).2) := by
  rw [Job.label, bind_of_ok (attempt_apply _ _)]
  rcases j.name ctx b with ⟨e | name, b'⟩ <;> rfl

/-- **The label of a job** is its name if that can be had, and a question mark otherwise. -/
theorem label_apply (hlive : b.Live (b.job j).resource) (ctx : Option Context) :
    (j.label ctx b).1 = .ok (b.label j ctx) ∧ b.Labels ctx j (j.label ctx b).2 := by
  rw [label_eq, name, bind_of_ok (read_apply _ _), Bridge.label]
  cases h : (b.job j).name with
  | some name => exact ⟨rfl, fun _ => rfl,
    fun hnone => absurd (h.symm.trans hnone) (Option.some_ne_none name)⟩
  | none =>
    obtain ⟨hgiven, hasks⟩ := lookUpName_apply hlive ctx
    exact ⟨congrArg (fun given => Except.ok (given.getD "?")) hgiven, fun hsome => absurd h hsome,
      fun _ => hasks⟩

/-- **A take that comes too late** is refused, and asks for no more than the label. -/
theorem take?_of_taken (hlive : b.Live (b.job j).resource) (htaken : (b.job j).taken = true)
    (ctx : Option Context) (mode : TakeMode) :
    (j.take? ctx mode b).1 = .error (.alreadyTaken (b.label j ctx)) ∧
      b.Labels ctx j (j.take? ctx mode b).2 := by
  obtain ⟨_, _, b', hquiet, hmachine, hjobs, -, hjournal, htake⟩ :=
    takeOnce_of_open hlive.2 ctx mode
  rw [if_neg (Bool.eq_false_iff.1 hlive.1), if_pos htaken] at htake
  have hjob : b'.job j = b.job j := congrArg (·.get j.index) hjobs
  have hgiven : b'.nameGiven j ctx = b.nameGiven j ctx := by
    rw [Bridge.nameGiven, hquiet.passed, hjob, hquiet.resource, hmachine, Bridge.nameGiven]
  have hlive' : b'.Live (b'.job j).resource := by
    rwa [hjob, Bridge.Live, hquiet.resource, hquiet.closed]
  obtain ⟨hlabel, hknown, hunknown⟩ := label_apply hlive' ctx
  have htake' : j.take? ctx mode b =
      (.error (.alreadyTaken (b.label j ctx)), (j.label ctx b').2) := by
    rw [take?, bind_of_ok (read_apply _ _), bind_of_ok (read_apply _ _), bind_of_ok htake]
    refine (bind_of_ok (Prod.ext hlabel rfl)).trans ?_
    rw [fail_apply, Bridge.label, hjob, hgiven, Bridge.label]
  have hcalls : b'.calls = b.calls := by rw [Bridge.calls, hjournal, Bridge.calls]
  rw [htake']
  rw [hjob, hcalls] at hknown
  rw [hjob, hquiet.resource, hgiven] at hunknown
  refine ⟨rfl, hknown, fun hname => ⟨fun hnone => ?_, fun c hc => ?_⟩⟩
  · exact ((hunknown hname).closed ((hquiet.passed ctx).trans hnone)).trans hcalls
  · rw [← hcalls]
    exact (hunknown hname).passed c ((hquiet.passed ctx).trans hc)

end Job

end HandleBridge
