import HandleBridge.Proofs.Apart
import HandleBridge.Proofs.SimulatedTakes
import HandleBridge.Proofs.Walks

/-!
# Proofs/Alongside — passing a context changes what the context holds and nothing else

One lemma for each call that takes an optional context: without one and with an open one of the
simulated library it comes to the `Same`, from bridges that are apart.
-/

namespace HandleBridge

open HandleBridge.Action Bridge Simulation

variable {α β : Type}

section Calls

variable {h : Handle} {X : Context} {b b' : Bridge Simulation} (hX : b.Backs X h)
  (e : b.Apart h b')

include hX e

/-- A question to a resource. -/
theorem Resource.query_same (r : Resource) (symbol : Symbol)
    {call : Option Handle → Option Handle → Call Simulation (Option Bool)}
    (hcall : ∀ target, Blind fun c => call c target) :
    Same h (r.query none symbol call b) (r.query (some X) symbol call b') := by
  refine hX.bind (.allocateFrom _ _) (Quiet.allocateFrom _ _) e fun out b₁ b₁' _ hX₁ e₁ => ?_
  refine .withHandle e₁ ?_
  refine .bind ?_ fun answer b₂ b₂' _ e₂ => .pure e₂ _
  exact callNative_same hX₁ symbol (fun _ => ⟨_, rfl⟩)
    (fun _ _ e => invokeInto_same (hcall _) out _ symbol _ e) e₁

namespace Job

variable {j : Job} (hlibrary : (b.job j).library = Simulation.library)

include hlibrary

theorem lookUpName_same : Same h (j.lookUpName none b) (j.lookUpName (some X) b') := by
  refine .read e (fun _ => rfl) ?_
  rw [hlibrary]
  refine hX.bind (.allocateFrom _ _) (Quiet.allocateFrom _ _) e fun out b₁ b₁' _ hX₁ e₁ => ?_
  refine .bind (.withHandle e₁ ?_) fun name b₂ b₂' _ e₂ =>
    Steady.bind (.update _ fun _ => rfl) (fun _ => .pure _) b₂ b₂' e₂
  exact callNative_same hX₁ .jobName (fun _ => ⟨_, rfl⟩)
    (fun _ _ e => invokeInto_same (fun _ => ⟨_, .jobName _ true⟩) out _ _ _ e) e₁

theorem name_same : Same h (j.name none b) (j.name (some X) b') := by
  refine .read e (fun _ => rfl) ?_
  cases (b.job j).name with
  | some name => exact .pure e name
  | none => exact lookUpName_same hX e hlibrary

theorem label_same : Same h (j.label none b) (j.label (some X) b') := by
  obtain ⟨hresult, hbridge⟩ := name_same hX e hlibrary
  rw [label, bind_of_ok (attempt_apply _ _), label, bind_of_ok (attempt_apply _ _)]
  generalize j.name none b = y at hresult hbridge
  generalize j.name (some X) b' = y' at hresult hbridge
  obtain ⟨r, b₁⟩ := y
  obtain ⟨r', b₁'⟩ := y'
  cases hresult with
  | ok name => exact .pure hbridge name
  | error => exact .pure hbridge "?"

end Job

/-! ## Takes -/

omit hX in
/-- A converter never sees a context. -/
theorem TakenValue.convert_same {value : TakenValue}
    (hm : (b.manager value.manager).closed = false) (converter : Converter Simulation) :
    Same h (value.convert converter b) (value.convert converter b') := by
  have habandon : (value.abandon : Action Simulation Unit).Steady h := by
    rw [TakenValue.abandon]
    split
    · exact .note _
    · exact .pure _
  cases converter with
  | void => exact habandon.bind (fun _ => .pure _) _ _ e
  | inspect => exact habandon.bind (fun _ => .pure _) _ _ e
  | reject failure => exact habandon.bind (fun _ => .fail _) _ _ e
  | adopt kind dispose failure =>
    rw [TakenValue.convert]
    cases value.handle with
    | none => exact .fail e _
    | some handle =>
      exact .bind (Resource.adopt_same hm e handle _ _) fun r b₁ b₁' _ e₁ => .pure e₁ _

namespace Job

theorem takeNatively_same {s : State Simulation} (hlibrary : s.library = Simulation.library)
    (target : Handle) (valueOut readyOut : Buffer) (mode : TakeMode) :
    Same h (takeNatively s none target valueOut readyOut mode b)
      (takeNatively s (some X) target valueOut readyOut mode b') := by
  cases mode with
  | blocking =>
    rw [takeNatively, takeNatively, hlibrary]
    refine .bind ?_ fun value b₁ b₁' _ e₁ => .pure e₁ _
    exact callNative_same hX .jobTake (fun _ => ⟨_, rfl⟩)
      (fun _ _ e => invokeInto_same (fun _ => ⟨_, .jobTake _ true⟩) _ _ _ _ e) e
  | bounded limit =>
    rw [takeNatively, takeNatively, hlibrary]
    refine .bind ?_ fun value b₁ b₁' _ e₁ => .pure e₁ _
    exact callNative_same hX .jobTakeFor (fun _ => ⟨_, rfl⟩)
      (fun _ _ e => invokeInto_same (fun _ => ⟨_, .jobTakeFor _ _ true⟩) _ _ _ _ e) e
  | ifReady =>
    rw [takeNatively, takeNatively, hlibrary]
    refine .bind ?_ fun answer b₁ b₁' _ e₁ => .pure e₁ _
    refine callNative_same hX .jobTakeIfReady (fun _ => ⟨_, rfl⟩) (fun b b' e => ?_) e
    refine .bind (invoke_same (fun _ => ⟨_, .jobTakeIfReady _ true true⟩) _ _ e)
      fun answer b₁ b₁' _ e₁ => ?_
    exact Steady.bind (.put _ _ _) (fun _ => .bind (.put _ _ _) fun _ => .pure _) b₁ b₁' e₁

theorem takeOnce_same {j : Job} (hlibrary : (b.job j).library = Simulation.library)
    (mode : TakeMode) : Same h (j.takeOnce none mode b) (j.takeOnce (some X) mode b') := by
  refine .read e (fun _ => rfl) <| .read e (fun _ => rfl) ?_
  refine hX.bind (.allocate _ _) (Quiet.allocate _ _) e fun valueOut b₁ b₁' _ hX₁ e₁ => ?_
  refine hX₁.bind (.allocate _ _) (Quiet.allocate _ _) e₁ fun readyOut b₂ b₂' _ hX₂ e₂ => ?_
  refine .withHandle e₂ ?_
  split
  · exact .pure e₂ _
  · refine .bind (takeNatively_same hX₂ e₂ hlibrary _ _ _ _) fun found b₃ b₃' _ e₃ => ?_
    cases found with
    | none => exact .pure e₃ _
    | some value => exact Steady.bind (.update _ fun _ => rfl) (fun _ => .pure _) b₃ b₃' e₃

theorem take?_same {j : Job} (hj : b.Has (.job j))
    (hlibrary : (b.job j).library = Simulation.library) (mode : TakeMode) :
    Same h (j.take? none mode b) (j.take? (some X) mode b') := by
  refine .read e (fun _ => rfl) <| .read e (fun _ => rfl) ?_
  refine .bind (takeOnce_same hX e hlibrary mode) fun found b₁ b₁' htake e₁ => ?_
  obtain ⟨hgrows, hcontexts⟩ := takeOnce_grows b j none mode
  rw [htake] at hgrows hcontexts
  have hX₁ := hX.grows hgrows hcontexts
  have hlibrary₁ := (hgrows.jobLibrary hj).trans hlibrary
  cases found with
  | alreadyTaken =>
    exact .bind (label_same hX₁ e₁ hlibrary₁) fun label b₂ b₂' _ e₂ => .fail e₂ _
  | notReady => exact Steady.bind (.note _) (fun _ => .pure _) b₁ b₁' e₁
  | taken value =>
    have hm : (b.manager (b.resource (b.job j).resource).manager).closed = false := by
      refine Bool.eq_false_iff.2 fun hclosed => ?_
      rw [takeOnce_of_closed hclosed] at htake
      cases congrArg Prod.fst htake
    have hm₁ := (hgrows.closed _ (has_of_manager_open hm)).trans hm
    refine hX₁.bind (.note _) (Quiet.remark _) e₁ fun _ b₂ b₂' hquiet hX₂ e₂ => ?_
    have hlibrary₂ : (b₂.job j).library = Simulation.library :=
      ((Grows.quiet hquiet).jobLibrary (hgrows.has _ hj)).trans hlibrary₁
    refine .bind (label_same hX₂ e₂ hlibrary₂) fun label b₃ b₃' hlabel e₃ => ?_
    have hm₃ : (b₃.manager (b.resource (b.job j).resource).manager).closed = false := by
      have hquiet₃ := Quiet.label j none b₂
      rw [hlabel] at hquiet₃
      rw [hquiet₃.closed, hquiet.closed, hm₁]
    refine .bind ?_ fun y b₄ b₄' _ e₄ => .pure e₄ _
    rw [convert_apply, convert_apply, e₃.read (·.job j) fun _ => rfl]
    refine TakenValue.convert_same (e₃.note _) ?_ _
    exact hm₃

theorem takeExpecting_same {j : Job} (hj : b.Has (.job j))
    (hlibrary : (b.job j).library = Simulation.library) (symbol : Symbol) (mode : TakeMode) :
    Same h (takeExpecting symbol (j.take? none mode) b)
      (takeExpecting symbol (j.take? (some X) mode) b') := by
  refine .bind (take?_same hX e hj hlibrary mode) fun found b₁ b₁' _ e₁ => ?_
  cases found with
  | none => exact .fail e₁ _
  | some y => exact .pure e₁ y

/-! ## Cancel requests -/

theorem cancelAsync_same {j : Job} (hlibrary : (b.job j).library = Simulation.library) :
    Same h (j.cancelAsync none b) (j.cancelAsync (some X) b') := by
  cases hm : (b.manager (b.resource (b.job j).resource).manager).closed with
  | true =>
    have hjob := e.read (·.job j) fun _ => rfl
    have hm' : (b'.manager (b'.resource (b'.job j).resource).manager).closed = true := by
      rw [hjob, e.resource, e.manager, hm]
    rw [cancelAsync_of_closed hm, cancelAsync_of_closed hm']
    exact ⟨.refl _, e⟩
  | false =>
    refine .read e (fun _ => rfl) <| .read e (fun _ => rfl) ?_
    rw [hlibrary]
    refine hX.bind (.allocate _ _) (Quiet.allocate _ _) e fun out b₁ b₁' hquiet hX₁ e₁ => ?_
    refine .bind (.withHandle e₁ ?_) fun tracker b₂ b₂' hcall e₂ => ?_
    · exact callNative_same hX₁ .jobCancelAsync (fun _ => ⟨_, rfl⟩)
        (fun _ _ e => invokeInto_same (fun _ => ⟨_, .jobCancelAsync _ true⟩) _ _ _ _ e) e₁
    have hquiet₂ := Quiet.withHandle (b.job j).resource (fun handle =>
      Quiet.callNative none .jobCancelAsync fun c => .invokeInto out .ofHandle .jobCancelAsync
        (some handle) (Simulation.library.entry.jobCancelAsync c (some handle) true)) b₁
    rw [hcall] at hquiet₂
    have hm₂ : (b₂.manager (b.resource (b.job j).resource).manager).closed = false := by
      rw [hquiet₂.closed, hquiet.closed, hm]
    have hm₂' : (b₂'.manager (b.resource (b.job j).resource).manager).closed = false := by
      rw [e₂.manager, hm₂]
    cases tracker with
    | none => exact .pure e₂ none
    | some t =>
      refine .bind ?_ fun c b₃ b₃' _ e₃ => .pure e₃ _
      rw [Cancellation.adopt_of_open hm₂, Cancellation.adopt_of_open hm₂',
        e₂.read (·.cancellations.size) fun _ => rfl, e₂.read Bridge.next fun _ => rfl]
      exact ⟨.ok _, (e₂.adopted _ _ _ _).map (·.addCancellation _) fun _ => rfl⟩

/-! ## Closing -/

theorem close_same {j : Job} (hlibrary : (b.job j).library = Simulation.library)
    (hreleaser : (b.resource (b.job j).resource).releaser = Job.releaser Simulation.library) :
    Same h (j.close none b) (j.close (some X) b') := by
  have hjob : b'.job j = b.job j := e.read (·.job j) fun _ => rfl
  have hresource (r : Resource) : b'.resource r = b.resource r := e.resource r
  have hfailure : (b.resource (b.job j).resource).releaser.failure = none := by rw [hreleaser]; rfl
  cases hopen : (b.resource (b.job j).resource).closed with
  | true =>
    rw [close_of_closed hopen, close_of_closed (by rwa [hjob, hresource])]
    exact .pure e ()
  | false =>
    have hclosing : Same h (closing b j none b) (closing b' j (some X) b') := by
      rw [closing, closing, hjob, hlibrary]
      refine .withHandle e (callNative_same hX .jobClose (fun _ => ⟨_, rfl⟩) (fun _ _ e => ?_) e)
      exact invoke_same (fun _ => ⟨_, .jobClose _⟩) _ _ e
    rw [close_of_open hopen hfailure, close_of_open (by rwa [hjob, hresource])
      (by rwa [hjob, hresource]), hjob]
    refine ⟨hclosing.result, (Apart.remarked _ _).symm.trans (.trans ?_ (.remarked _ _))⟩
    refine hclosing.bridge.retire fun m contexts => ?_
    rw [(quiet_closing b j none b).resource, hreleaser]
    exact jobDispose_withContexts _ m contexts

end Job

end Calls

/-! ## Every call -/

/-- A call with another context, if it is one that takes a context. -/
def Operation.under {σ : Type} (ctx : Option Context) : {α : Type} → Operation σ α → Operation σ α
  | _, .jobName j _ => .jobName j ctx
  | _, .jobWait j _ limit => .jobWait j ctx limit
  | _, .jobIsDone j _ => .jobIsDone j ctx
  | _, .jobTake j _ => .jobTake j ctx
  | _, .jobTakeFor j _ limit => .jobTakeFor j ctx limit
  | _, .jobTakeIfReady j _ => .jobTakeIfReady j ctx
  | _, .jobCancel j _ => .jobCancel j ctx
  | _, .jobCancelFor j _ limit => .jobCancelFor j ctx limit
  | _, .jobCancelAsync j _ => .jobCancelAsync j ctx
  | _, .cancellationWait c _ limit => .cancellationWait c ctx limit
  | _, .cancellationIsDone c _ => .cancellationIsDone c ctx
  | _, .close o _ => .close o ctx
  | _, op => op

/-- The terms on which all objects come from one library. -/
def Terms.over {σ : Type} (library : Library σ) : Terms σ :=
  ⟨fun _ _ _ => True, fun _ _ => True, (· = library), fun _ => True⟩

namespace Operation

/-- **A call comes to the same with an open context as without one.** -/
theorem under_same {b : Bridge Simulation} (hserved : b.Served (.over Simulation.library))
    (op : Operation Simulation α) (X : Context) (known : (op.under (some X)).Known b)
    (hopen : (b.resource (b.context X).resource).closed = false) :
    Same (b.resource (b.context X).resource).handle ((op.under none).perform b)
      ((op.under (some X)).perform b) := by
  have e : b.Apart (b.resource (b.context X).resource).handle b := .refl b
  have hX (hmem : .context X ∈ (op.under (some X)).objects) :
      b.Backs X (b.resource (b.context X).resource).handle :=
    ⟨known _ hmem, hopen, (hserved (.context X) (known _ hmem)).1, rfl⟩
  cases op with
  | jobName j ctx =>
    exact Job.name_same (hX (.tail _ (.head _))) e (hserved _ (known _ (.head _))).1.1
  | jobWait j ctx limit =>
    refine .read e (fun _ => rfl) ?_
    rw [(hserved _ (known _ (.head _))).1.1]
    exact Resource.query_same (hX (.tail _ (.head _))) e _ _ fun target m =>
      ⟨_, .jobWait target _ true⟩
  | jobIsDone j ctx =>
    refine .read e (fun _ => rfl) ?_
    rw [(hserved _ (known _ (.head _))).1.1]
    exact Resource.query_same (hX (.tail _ (.head _))) e _ _ fun target m =>
      ⟨_, .jobIsDone target true⟩
  | jobTake j ctx =>
    exact Job.takeExpecting_same (hX (.tail _ (.head _))) e (known _ (.head _))
      (hserved _ (known _ (.head _))).1.1 _ _
  | jobTakeFor j ctx limit =>
    exact Job.takeExpecting_same (hX (.tail _ (.head _))) e (known _ (.head _))
      (hserved _ (known _ (.head _))).1.1 _ _
  | jobTakeIfReady j ctx =>
    exact Job.take?_same (hX (.tail _ (.head _))) e (known _ (.head _))
      (hserved _ (known _ (.head _))).1.1 _
  | jobCancel j ctx =>
    refine .read e (fun _ => rfl) ?_
    rw [(hserved _ (known _ (.head _))).1.1]
    exact Resource.query_same (hX (.tail _ (.head _))) e _ _ fun target m =>
      ⟨_, .jobCancel target true⟩
  | jobCancelFor j ctx limit =>
    refine .read e (fun _ => rfl) ?_
    rw [(hserved _ (known _ (.head _))).1.1]
    exact Resource.query_same (hX (.tail _ (.head _))) e _ _ fun target m =>
      ⟨_, .jobCancelFor target _ true⟩
  | jobCancelAsync j ctx =>
    exact Job.cancelAsync_same (hX (.tail _ (.head _))) e (hserved _ (known _ (.head _))).1.1
  | cancellationWait c ctx limit =>
    refine .read e (fun _ => rfl) ?_
    rw [(hserved _ (known _ (.head _))).1]
    exact Resource.query_same (hX (.tail _ (.head _))) e _ _ fun target m =>
      ⟨fun _ _ => False, .cancelJobWait target _ true⟩
  | cancellationIsDone c ctx =>
    refine .read e (fun _ => rfl) ?_
    rw [(hserved _ (known _ (.head _))).1]
    exact Resource.query_same (hX (.tail _ (.head _))) e _ _ fun target m =>
      ⟨fun _ _ => False, .cancelJobIsDone target true⟩
  | close o ctx =>
    cases o with
    | job j =>
      obtain ⟨⟨hlibrary, -⟩, -, -, hreleaser⟩ := hserved _ (known _ (.head _))
      exact Job.close_same (hX (.tail _ (.head _))) e hlibrary (hlibrary ▸ hreleaser)
    | _ => exact ⟨.refl _, .refl _⟩
  | _ => exact ⟨.refl _, .refl _⟩

end Operation

namespace Run

variable {native : Simulation} {env : Environment} {b : Bridge Simulation}

/-- **Passing a context changes diagnostics only.**  Wherever a run over the simulated library has
come, a call that is passed an open context gives what it gives without one, or a failure that
differs in message and snapshot at most, and leaves everything as it does without one but for what
the context holds. -/
theorem same_under_context (run : Run (.start native env) b)
    (hrun : run.All fun _ op => op.On (.over Simulation.library)) (op : Operation Simulation α)
    (X : Context) (known : (op.under (some X)).Known b)
    (hopen : (b.resource (b.context X).resource).closed = false) :
    let plain := (op.under none).perform b
    let given := (op.under (some X)).perform b
    Alike plain.1 given.1 ∧ plain.2.Apart (b.resource (b.context X).resource).handle given.2 := by
  obtain ⟨-, hserved⟩ := run.walk (fun _ _ => by constructor <;> intros <;> exact trivial) hrun
    (.start _ native env)
  obtain ⟨hresult, hbridge⟩ := op.under_same hserved X known hopen
  exact ⟨hresult, hbridge⟩

/-- A take of a job that the server refuses. -/
theorem same_under_context_of_refusal :
    ∃ (native : Simulation) (b : Bridge Simulation) (_ : Run (.start native []) b),
      Alike ((Operation.jobTake ⟨0⟩ none).perform b).1
          ((Operation.jobTake ⟨0⟩ (some ⟨0⟩)).perform b).1 ∧
        ((Operation.jobTake ⟨0⟩ none).after b).Apart (.ofIndex 0)
          ((Operation.jobTake ⟨0⟩ (some ⟨0⟩)).after b) ∧
        ((Operation.jobTake ⟨0⟩ none).perform b).1.toOption = none := by
  let detail : ServerDetail := ⟨7, "SQL", 42, "SYNTAX"⟩
  let spec : JobSpec := ⟨"query", some 0, .serverError "refused" detail, 0, none, none, none⟩
  let native := ((default : Simulation).newJob spec 0).2
  let run₁ := (Run.done (b := Bridge.start native [])).call (.createManager 16) (by decide)
  let run₂ := run₁.call (.createContext library ⟨0⟩) (by decide)
  let run := run₂.call (.adoptJob library ⟨0⟩ (.ofIndex 0) .void) (by decide)
  obtain ⟨halike, hapart⟩ := run.same_under_context
    ⟨⟨⟨trivial, trivial⟩, rfl⟩, rfl, trivial⟩ (.jobTake ⟨0⟩ none) ⟨0⟩ (by decide) (by decide)
  exact ⟨native, _, run, halike, hapart, rfl⟩

end Run

end HandleBridge
