import HandleBridge.Proofs.Buffers
import HandleBridge.Proofs.Statuses
import HandleBridge.Proofs.StatusNames
import HandleBridge.Proofs.Surfacing

/-!
# Proofs/NamedFailures — a failure without a context tells its status by name

A call that is given no context has nothing to say of a native failure but the name of its status
(`Operation.FailsAlone.eq_ofStatus`).  Every other failure on the way is the bridge's own, which is
none of a native call, or one that the caller's code was to end with.  Since a name identifies its
status (`Status.name_identifies`), the status can be read off the message.
-/

namespace HandleBridge

open HandleBridge.Action Bridge

variable {σ α : Type}

/-- If it is the failure of a native call, it tells the status and no more. -/
def Failure.Plain (e : Failure) : Prop := e.isNative = true → ∃ s, e = .ofStatus s none

namespace Failure.Plain

theorem ofStatus (s : Status) : (Failure.ofStatus s none).Plain := fun _ => ⟨s, rfl⟩

theorem of_not_native {e : Failure} (h : e.isNative = false) : e.Plain :=
  fun hnative => Bool.noConfusion (h.symm.trans hnative)

end Failure.Plain

/-! ## Calls that fail plainly

A call fails plainly if the calls that it is made of do. -/

namespace Action.FailsAs

open Failure

theorem ofExcept {r : Except Failure α} (h : ∀ e, r = .error e → e.Plain) :
    (Action.ofExcept r : Action σ α).FailsAs Plain := fun _ => h

theorem withHandle (r : Resource) {f : Handle → Action σ α} (hf : ∀ h, (f h).FailsAs Plain) :
    (r.withHandle f).FailsAs Plain := by
  refine .bind (.of_total (.read _)) fun s => ?_
  split
  · exact .fail (.of_not_native rfl)
  · exact hf s.handle

theorem allocating (m : Manager) {f : Scratch → Except Failure α × Scratch}
    (hf : ∀ s e, (f s).1 = .error e → e.Plain) : (m.allocating f : Action σ α).FailsAs Plain := by
  refine .bind (.of_total (.read _)) fun s => ?_
  split
  · exact .fail (.of_not_native rfl)
  · exact .bind (.of_total (.read _)) fun scratch => .bind (.of_total (.update _)) fun _ =>
      .bind (.of_total (.update _)) fun _ => .ofExcept (hf scratch)

theorem allocate (m : Manager) (cells : List Cell) :
    (m.allocate cells : Action σ _).FailsAs Plain := .allocating m fun _ _ he => by cases he

theorem allocateFrom (r : Resource) (cells : List Cell) :
    (r.allocate cells : Action σ _).FailsAs Plain :=
  .bind (.of_total (.read _)) fun s => .allocate s.manager cells

theorem allocateContent (m : Manager) (content : Content) :
    (Operation.allocateContent m content : Action σ _).FailsAs Plain := by
  rw [Content.allocateContent_eq]
  refine .allocating m fun s e he => ?_
  by_cases hspellable : content.Spellable
  · obtain ⟨buffer, s', htake, -⟩ := Content.take_of_spellable hspellable m s
    rw [htake] at he
    cases he
  · obtain ⟨text, htake⟩ := Content.take_of_not_spellable hspellable m s
    rw [htake] at he
    cases he
    exact .of_not_native rfl

/-- What is handed out was taken. -/
theorem handOut {x : Action σ Buffer} (hx : x.FailsAs Plain) :
    (x >>= Manager.handOut).FailsAs Plain :=
  hx.bind fun _ => .of_total fun _ => ⟨_, rfl⟩

/-- **A call of an entry point without a context** fails with the status that was answered. -/
theorem callNative (symbol : Symbol) {call : Option Handle → Action σ (Answer α)}
    (hcall : (call none).Total) : (HandleBridge.callNative none symbol call).FailsAs Plain := by
  intro b e he
  let b₀ := b.note (.remarked (.nativeCall symbol false))
  obtain ⟨a, ha⟩ := hcall b₀
  have hpassed : b₀.passed none = some none := rfl
  have hmade : call none b₀ = (.ok a, (call none b₀).2) := Prod.ext ha rfl
  cases hok : a.status.isOk with
  | true =>
    have hunder := callUnder_of_ok hpassed hmade hok
    obtain ⟨_, _, heq⟩ := callNative_apply hunder
    rw [heq] at he
    cases he
  | false =>
    have hunder := callUnder_of_failed hpassed hmade hok rfl
    obtain ⟨_, _, heq⟩ := callNative_apply hunder
    rw [heq] at he
    cases he
    exact .ofStatus a.status

theorem callInto (symbol : Symbol) (out : Buffer) (cell : α → Cell) (target : Option Handle)
    (native : Option Handle → Call σ α) :
    (HandleBridge.callNative none symbol fun c =>
      invokeInto out cell symbol target (native c)).FailsAs Plain :=
  .callNative symbol fun _ => ⟨_, rfl⟩

theorem query (r : Resource) (symbol : Symbol)
    (call : Option Handle → Option Handle → Call σ (Option Bool)) :
    (r.query none symbol call).FailsAs Plain :=
  .bind (.allocateFrom r _) fun out => .withHandle r fun _ =>
    .bind (.callInto symbol out _ _ _) fun _ => .pure _

/-! ## Contexts -/

theorem field (c : Context) (symbol : Symbol) (initial : Cell) (cell : α → Cell)
    (getter : EntryPoints σ → Option Handle → Bool → Call σ α) :
    (c.field symbol initial cell getter).FailsAs Plain := by
  refine .bind (.of_total (.read _)) fun s => .bind (.allocateFrom _ _) fun out =>
    .withHandle _ fun h => .bind (.of_total fun _ => ⟨_, rfl⟩) fun answer => ?_
  split
  · exact .pure _
  split
  · exact .pure _
  · exact .fail (.ofStatus _)

theorem diagnostic (c : Context) : (c.diagnostic : Action σ _).FailsAs Plain := by
  refine .bind (.of_total (.read _)) fun s => .withHandle _ fun h =>
    .bind (.of_total fun _ => ⟨_, rfl⟩) fun answer => ?_
  split
  · exact .of_total (readDiagnostic_total _ _ _)
  · exact .fail (.ofStatus _)

theorem adoptContext (library : Library σ) (m : Manager) (h : Handle) :
    (Context.adopt library m h).FailsAs Plain :=
  .bind (.adopt (.of_not_native rfl) m h _ _) fun _ => .bind (.of_total (.read _)) fun _ =>
    .bind (.of_total (.update _)) fun _ => .pure _

theorem createContext (library : Library σ) (m : Manager) :
    (Context.create library m).FailsAs Plain := by
  refine .bind (.allocate m _) fun out => .bind (.of_total fun _ => ⟨_, rfl⟩) fun answer => ?_
  split
  · split
    · exact .adoptContext library m _
    · exact .fail (.of_not_native rfl)
  · exact .fail (.ofStatus _)

/-! ## Jobs -/

theorem adoptJob (library : Library σ) (m : Manager) (h : Handle) (converter : Converter σ) :
    (Job.adopt library m h converter).FailsAs Plain :=
  .bind (.adopt (.of_not_native rfl) m h _ _) fun _ => .bind (.of_total (.read _)) fun _ =>
    .bind (.of_total (.update _)) fun _ => .pure _

theorem name (j : Job) : (j.name none : Action σ _).FailsAs Plain := by
  refine .bind (.of_total (.read _)) fun s => ?_
  split
  · exact .pure _
  · exact .bind (.of_total (.read _)) fun s => .bind (.allocateFrom _ _) fun out =>
      .bind (.withHandle _ fun h => .callInto _ out _ _ _) fun name =>
        .bind (.of_total (.update _)) fun _ => .pure _

theorem takeNatively (s : Job.State σ) (h : Handle) (valueOut readyOut : Buffer)
    (mode : TakeMode) : (Job.takeNatively s none h valueOut readyOut mode).FailsAs Plain := by
  cases mode with
  | blocking => exact .map (.callInto _ valueOut _ _ _)
  | bounded limit => exact .map (.callInto _ valueOut _ _ _)
  | ifReady => exact .bind (.callNative _ fun _ => ⟨_, rfl⟩) fun answer => .pure _

theorem takeOnce (j : Job) (mode : TakeMode) :
    (j.takeOnce none mode : Action σ _).FailsAs Plain := by
  refine .bind (.of_total (.read _)) fun s => .bind (.of_total (.read _)) fun r =>
    .bind (.allocate _ _) fun valueOut => .bind (.allocate _ _) fun readyOut =>
      .withHandle _ fun h => ?_
  split
  · exact .pure _
  · refine .bind (.takeNatively s h valueOut readyOut mode) fun found => ?_
    split
    · exact .pure _
    · exact .bind (.of_total (.update _)) fun _ => .pure _

theorem cancelAsync (j : Job) : (j.cancelAsync none : Action σ _).FailsAs Plain := by
  refine .bind (.of_total (.read _)) fun s => .bind (.of_total (.read _)) fun r =>
    .bind (.allocate _ _) fun out =>
      .bind (.withHandle _ fun h => .callInto _ out _ _ _) fun tracker => ?_
  split
  · exact .pure _
  · exact .map <| .bind (.adopt (.of_not_native rfl) _ _ _ _) fun _ =>
      .bind (.of_total (.read _)) fun _ => .bind (.of_total (.update _)) fun _ => .pure _

/-! ## Managers and the process -/

theorem createManager (capacity : Nat) : (Manager.create capacity : Action σ _).FailsAs Plain := by
  rw [Manager.create]
  split
  · exact .pure _
  · exact .bind (.of_total (.read _)) fun _ => .bind (.of_total (.update _)) fun _ =>
      .bind (.of_total (.remark _)) fun _ => .pure _

theorem register (m : Manager) (r : Resource) : (m.register r : Action σ Unit).FailsAs Plain := by
  refine .bind (.of_total (.read _)) fun s => .bind (.of_total (.read _)) fun owner => ?_
  split
  · exact .fail (.of_not_native rfl)
  split
  · exact .fail (.of_not_native rfl)
  split
  · exact .fail (.of_not_native rfl)
  refine .bind (.of_total (.read _)) fun own => ?_
  split
  · exact .fail (.of_not_native rfl)
  · exact .of_total (.update _)

theorem deregister (m : Manager) (r : Resource) : (m.deregister r : Action σ _).FailsAs Plain := by
  refine .bind (.of_total (.read _)) fun s => .bind (.of_total (.read _)) fun own => ?_
  dsimp only
  split
  · exact .bind (.of_total (.update _)) fun _ => .bind (.of_total (.remark _)) fun _ => .pure _
  · exact .pure _

/-- A teardown keeps the failures together, so it fails with none of them. -/
theorem closeManager (m : Manager) : (m.close : Action σ _).FailsAs Plain := by
  intro b e he
  obtain ⟨failing, outcome, b', -, heq⟩ := m.close_warns b
  rw [heq, Failure.verdict] at he
  cases failing with
  | nil => cases he
  | cons first rest =>
    cases he
    exact .of_not_native rfl

theorem setUpLogger (library : Library σ) (filters : String) (file : Option String) :
    (Logger.setUp library filters file).FailsAs Plain := by
  have hspell {what text : String} {e : Failure} (he : Logger.spell what text = .error e) :
      e.Plain := by
    rw [Logger.spell] at he
    split at he <;> cases he
    exact .of_not_native rfl
  refine .bind (.of_total (.read _)) fun process => ?_
  split
  · exact .bind (.of_total (.remark _)) fun _ => .pure _
  refine .bind ?_ fun _ => .bind (.of_total (.update _)) fun _ => .pure _
  refine .bind (.ofExcept fun e he => hspell he) fun filterBytes => .bind ?_ fun fileBytes =>
    .bind (.of_total fun _ => ⟨_, rfl⟩) fun answer => ?_
  · cases file with
    | none => exact .pure none
    | some path =>
      refine .ofExcept fun e he => ?_
      have he : Except.map some (Logger.spell "log file path" path) = .error e := he
      rcases hpath : Logger.spell "log file path" path with e' | bytes <;> rw [hpath] at he <;>
        cases he
      exact hspell hpath
  · split
    · exact .of_total (.remark _)
    · exact .fail (.ofStatus _)

theorem setUpLoggerFrom (library : Library σ) (config : Config) :
    (Logger.setUpFrom library config).FailsAs Plain := by
  rw [Logger.setUpFrom]
  split
  · exact .pure false
  · exact .setUpLogger library _ _

theorem setUpTracing : (Tracing.setUp : Action σ Bool).FailsAs Plain := by
  refine .bind (.of_total (.read _)) fun process => ?_
  split
  · exact .pure _
  · exact .bind (.of_total (.read _)) fun _ => .bind (.of_total (.update _)) fun _ =>
      .bind (.of_total (.remark _)) fun _ => .pure _

theorem loadAnnounced (open? : Loader σ) (path : String) :
    (Library.loadAnnounced open? path).FailsAs Plain := by
  refine .bind (.ofExcept fun e he => ?_) fun _ => .bind (.of_total (.remark _)) fun _ => .pure _
  rw [Library.load] at he
  split at he
  · cases he
    exact .of_not_native rfl
  · split at he <;> cases he
    exact .of_not_native rfl

theorem share (open? : Loader σ) (config : Config) :
    (Library.share open? config).FailsAs Plain := by
  refine .bind (.of_total (.read _)) fun process => ?_
  split
  · exact .pure _
  refine .bind (.ofExcept fun e he => ?_) fun path => .bind (.loadAnnounced open? path) fun _ =>
    .bind (.of_total (.update _)) fun _ => .pure _
  rw [Config.resolveLibraryPath] at he
  split at he
  · cases he
  · split at he <;> cases he
    exact .of_not_native rfl

end Action.FailsAs

/-! ## Failures that the caller's code was to end with -/

section Scripted

variable {b : Bridge σ} {e : Failure}

theorem Resource.failure_of_close {r : Resource} (he : (r.close b).1 = .error e) :
    (b.resource r).releaser.failure = some e := by
  rw [close, bind_apply] at he
  cases hopen : (b.resource r).closed with
  | true =>
    rw [release_of_closed hopen] at he
    cases he
  | false =>
    rw [release_of_open hopen, outcome] at he
    rcases hfailure : (b.resource r).releaser.failure with _ | e' <;> rw [hfailure] at he <;>
      cases he
    rfl

namespace Job

variable {j : Job}

/-- A job is closed in the library and then released; the library's failure comes first. -/
theorem plain_or_of_close (he : (j.close none b).1 = .error e) :
    e.Plain ∨ (b.resource (b.job j).resource).releaser.failure = some e := by
  cases hopen : (b.resource (b.job j).resource).closed with
  | true =>
    rw [close_of_closed hopen] at he
    cases he
  | false =>
    have hclosing : (closing b j none).FailsAs Failure.Plain :=
      .withHandle _ fun _ => .callNative _ fun _ => ⟨_, rfl⟩
    have hresource := (quiet_closing b j none b).resource (b.job j).resource
    rw [close_eq_of_open hopen none] at he
    rcases hclosed : (closing b j none b).1 with e' | _ <;> rw [hclosed] at he
    · cases he
      exact .inl (hclosing b e hclosed)
    · exact .inr (hresource ▸ Resource.failure_of_close he)

/-- A take fails with what the converter rejects once it is the converter's turn. -/
theorem plain_or_of_take? {mode : TakeMode} (he : (j.take? none mode b).1 = .error e) :
    e.Plain ∨ (b.job j).converter = .reject e := by
  cases hover : b.handedOver j none mode with
  | some value =>
    obtain ⟨_, b₁, label, -, -, htake⟩ := take?_of_some hover
    have hconvert := FailsAs.convert (P := fun e => e.Plain ∨ (b.job j).converter = .reject e)
      (.inl (.of_not_native rfl)) (fun _ => .inl (.of_not_native rfl)) (fun _ => .inr)
    rw [htake] at he
    exact (hconvert _).map _ e he
  | none =>
    rcases j.takeOnce_cases b none mode with ⟨value, _, hvalue, -⟩ | ⟨-, -, hnot⟩
    · cases hover.symm.trans hvalue
    rw [take?, bind_of_ok (read_apply _ _), bind_of_ok (read_apply _ _), bind_apply] at he
    rcases htake : j.takeOnce none mode b with ⟨e' | found, b'⟩ <;> rw [htake] at he hnot
    · cases he
      exact .inl (FailsAs.takeOnce j mode b e (congrArg Prod.fst htake))
    · cases found with
      | alreadyTaken =>
        exact .inl (FailsAs.bind (.of_total (j.label_total none))
          (fun _ => .fail (.of_not_native rfl)) b' e he)
      | notReady => cases he
      | taken value => exact absurd rfl (hnot value)

theorem plain_or_of_takeExpecting {symbol : Symbol} {mode : TakeMode}
    (he : (takeExpecting symbol (j.take? none mode) b).1 = .error e) :
    e.Plain ∨ (b.job j).converter = .reject e := by
  rw [takeExpecting, bind_apply] at he
  rcases htake : j.take? none mode b with ⟨e' | found, b'⟩ <;> rw [htake] at he
  · cases he
    exact plain_or_of_take? (congrArg Prod.fst htake)
  · cases found with
    | none =>
      cases he
      exact .inl (.of_not_native rfl)
    | some y => cases he

end Job

namespace Operation

/-- Is it a failure that the caller's own code was to end with: the converter of a job that a call
takes, or the release of what a call closes? -/
def Scripted (b : Bridge σ) (e : Failure) : {α : Type} → Operation σ α → Prop
  | _, jobTake j _ | _, jobTakeFor j _ _ | _, jobTakeIfReady j _ => (b.job j).converter = .reject e
  | _, close o _ => ∃ r, b.wrapped? o = some r ∧ (b.resource r).releaser.failure = some e
  | _, _ => False

/-- **A call without a context fails because the native library did**: with a native failure that
the caller's own code has no part in. -/
structure FailsAlone (op : Operation σ α) (b : Bridge σ) (e : Failure) : Prop where
  alone : op.context? = none
  failed : (op.perform b).1 = .error e
  native : e.isNative = true
  unscripted : ¬ op.Scripted b e

/-- **A call without a context fails plainly**, or as the caller's code was to. -/
theorem plain_or_scripted (op : Operation σ α) (halone : op.context? = none)
    (he : (op.perform b).1 = .error e) : e.Plain ∨ op.Scripted b e := by
  cases op with
  | createManager capacity => exact .inl (FailsAs.createManager capacity b e he)
  | closeManager m => exact .inl (FailsAs.closeManager m b e he)
  | register m r => exact .inl (FailsAs.register m r b e he)
  | deregister m r => exact .inl (FailsAs.deregister m r b e he)
  | allocate m content => exact .inl ((FailsAs.allocateContent m content).handOut b e he)
  | allocateFrom r cells => exact .inl ((FailsAs.allocateFrom r cells).handOut b e he)
  | write | dropBuffer => cases he
  | adopt m h kind pause failure =>
    exact .inl (FailsAs.adopt (.of_not_native rfl) m h kind _ b e he)
  | handle r => exact .inl (FailsAs.withHandle r (fun h => .pure h) b e he)
  | createContext library m => exact .inl (FailsAs.createContext library m b e he)
  | adoptContext library m h => exact .inl (FailsAs.adoptContext library m h b e he)
  | returnCode c => exact .inl (FailsAs.map (.map (.field c _ _ _ _)) b e he)
  | errorType c => exact .inl (FailsAs.map (.map (.field c _ _ _ _)) b e he)
  | errorName c => exact .inl (FailsAs.map (.field c _ _ _ _) b e he)
  | errorMessage c => exact .inl (FailsAs.map (.field c _ _ _ _) b e he)
  | categoryNumber c => exact .inl (FailsAs.map (.field c _ _ _ _) b e he)
  | categoryText c => exact .inl (FailsAs.map (.field c _ _ _ _) b e he)
  | codeNumber c => exact .inl (FailsAs.map (.field c _ _ _ _) b e he)
  | structuredCode c => exact .inl (FailsAs.map (.field c _ _ _ _) b e he)
  | diagnostic c => exact .inl (FailsAs.diagnostic c b e he)
  | adoptJob library m h converter =>
    exact .inl (FailsAs.adoptJob library m h converter b e he)
  | jobName j ctx =>
    cases halone
    exact .inl (FailsAs.name j b e he)
  | jobWait j ctx limit =>
    cases halone
    exact .inl (FailsAs.bind (.of_total (.read _)) (fun s => .query _ _ _) b e he)
  | jobIsDone j ctx =>
    cases halone
    exact .inl (FailsAs.bind (.of_total (.read _)) (fun s => .query _ _ _) b e he)
  | jobTake j ctx =>
    cases halone
    exact Job.plain_or_of_takeExpecting he
  | jobTakeFor j ctx limit =>
    cases halone
    exact Job.plain_or_of_takeExpecting he
  | jobTakeIfReady j ctx =>
    cases halone
    exact Job.plain_or_of_take? he
  | jobCancel j ctx =>
    cases halone
    exact .inl (FailsAs.bind (.of_total (.read _)) (fun s => .query _ _ _) b e he)
  | jobCancelFor j ctx limit =>
    cases halone
    exact .inl (FailsAs.bind (.of_total (.read _)) (fun s => .query _ _ _) b e he)
  | jobCancelAsync j ctx =>
    cases halone
    exact .inl (FailsAs.cancelAsync j b e he)
  | cancellationWait k ctx limit =>
    cases halone
    exact .inl (FailsAs.bind (.of_total (.read _)) (fun s => .query _ _ _) b e he)
  | cancellationIsDone k ctx =>
    cases halone
    exact .inl (FailsAs.bind (.of_total (.read _)) (fun s => .query _ _ _) b e he)
  | close o ctx =>
    cases o with
    | manager m => exact .inl (FailsAs.map (.closeManager m) b e he)
    | resource r => exact .inr ⟨r, rfl, Resource.failure_of_close he⟩
    | context c => exact .inr ⟨_, rfl, Resource.failure_of_close he⟩
    | job j =>
      cases halone
      exact (Job.plain_or_of_close he).imp_right fun h => ⟨_, rfl, h⟩
    | cancellation k => exact .inr ⟨_, rfl, Resource.failure_of_close he⟩
  | drop o =>
    cases o with
    | manager m => exact .inl (FailsAs.of_total m.drop_total b e he)
    | resource r => exact .inl (FailsAs.of_total r.drop_total b e he)
    | context c => exact .inl (FailsAs.of_total (.bind (.read _) Resource.drop_total) b e he)
    | job j => exact .inl (FailsAs.of_total (.bind (.read _) Resource.drop_total) b e he)
    | cancellation k => exact .inl (FailsAs.of_total (.bind (.read _) Resource.drop_total) b e he)
  | outside change => cases he
  | setUpLogger library filters file =>
    exact .inl (FailsAs.setUpLogger library filters file b e he)
  | setUpLoggerFrom library config =>
    exact .inl (FailsAs.setUpLoggerFrom library config b e he)
  | setUpTracing => exact .inl (FailsAs.setUpTracing b e he)
  | load open? path => exact .inl (FailsAs.loadAnnounced open? path b e he)
  | share open? config => exact .inl (FailsAs.share open? config b e he)

theorem FailsAlone.eq_ofStatus {op : Operation σ α} (h : op.FailsAlone b e) :
    ∃ s, e = .ofStatus s none := by
  obtain hplain | hscripted := op.plain_or_scripted h.alone h.failed
  · exact hplain h.native
  · exact absurd hscripted h.unscripted

end Operation

end Scripted

/-! ## What a message tells -/

namespace Status

/-- **A name identifies its status.**  The symbolic names are pairwise distinct, every other status
is named by `Rc` and its eight digits, which are the status, and no symbolic name is written that
way; so statuses of one name are one status, which reads back from the name.  The name is all that
the message of a failure without a context tells, and it tells which status was answered. -/
theorem name_identifies (a b : Status) :
    ((named.map Prod.snd).Nodup ∧ (∀ e ∈ named, e.1.name = e.2) ∧
      (a ∈ named.map Prod.fst ∨ a.name = "Rc" ++ a.digits)) ∧
    (a.digits.toList.length = 8 ∧
      (∀ c ∈ a.digits.toList, '0' ≤ c ∧ c ≤ '9' ∨ 'a' ≤ c ∧ c ≤ 'f') ∧
      Hex.value? a.digits.toList = some a.raw.toNat ∧
      ("Rc" ++ a.digits = "Rc" ++ b.digits ↔ a = b)) ∧
    "Rc" ++ a.digits ∉ named.map Prod.snd ∧
    (a.name = b.name ↔ a = b) ∧ ofName? a.name = some a ∧
    ∀ {σ α : Type} (op : Operation σ α) (bridge : Bridge σ) (e : Failure),
      op.FailsAlone bridge e → ∃ s, e.status? = some s ∧
        e.message = "native call failed with " ++ s.name ∧
        (e.message = "native call failed with " ++ a.name ↔ s = a) := by
  have hfallback : a ∈ named.map Prod.fst ∨ a.name = "Rc" ++ a.digits := by
    obtain hmem | ⟨-, hname⟩ := a.name_cases
    · exact .inl (List.mem_map_of_mem hmem)
    · exact .inr hname
  refine ⟨⟨nodup_names, name_of_mem, hfallback⟩, ⟨a.length_digits, fun c hc => ?_,
    a.value?_digits, digits_inj⟩, a.digits_not_mem_names, name_inj, a.ofName?_name,
    fun op bridge e halone => ?_⟩
  · rw [toList_digits] at hc
    exact Hex.lower_of_mem_fixed hc
  · obtain ⟨s, rfl⟩ := halone.eq_ofStatus
    refine ⟨s, rfl, rfl, ?_⟩
    rw [← name_inj]
    exact String.append_right_inj _

/-- A wait without a context, which the library answers with a status that has no symbolic name. -/
theorem name_identifies_of_wait :
    ∃ (b : Bridge Unit) (e : Failure), (Operation.jobWait ⟨0⟩ none 5).FailsAlone b e ∧
      e.message = "native call failed with Rcc0001234" ∧ e.status? = some ⟨0xC0001234⟩ ∧
      ofName? "Rcc0001234" = some ⟨0xC0001234⟩ := by
  let entry : EntryPoints Unit :=
    { EntryPoints.idle Unit with jobWait := fun _ _ _ _ m => (⟨⟨0xC0001234⟩, some true⟩, m) }
  let b := (Operation.adoptJob ⟨.inProcess "refusing", entry⟩ ⟨0⟩ (.ofIndex 7) .void).after
    ((Operation.createManager 16).after (.start () []))
  have halone : (Operation.jobWait ⟨0⟩ none 5).FailsAlone b (.ofStatus ⟨0xC0001234⟩ none) :=
    ⟨rfl, rfl, rfl, not_false⟩
  obtain ⟨-, -, -, -, hread, hmessage⟩ := name_identifies ⟨0xC0001234⟩ .ok
  obtain ⟨s, hs, htext, -⟩ := hmessage _ b _ halone
  cases hs
  have hname : Status.name ⟨0xC0001234⟩ = "Rcc0001234" := by decide
  rw [hname] at hread htext
  exact ⟨b, _, halone, htext, rfl, hread⟩

end Status

end HandleBridge
