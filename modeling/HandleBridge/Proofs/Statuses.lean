import HandleBridge.Proofs.Reported
import HandleBridge.Proofs.Walks

/-!
# Proofs/Statuses — a status other than success is never dropped

Each call of the bridge is about one entry point.  Whatever status that answers with, and whatever
it writes, the caller is told the status, unless it only says that a context has no such field; and
when the status is not success, no object shows that the call was made.
-/

namespace HandleBridge

open HandleBridge.Action

variable {σ α β : Type}

/-! ## Calls that leave nothing behind -/

/-- **Nothing of an object changed**, and no more is known of a job than before. -/
structure Bridge.Settled (b b' : Bridge σ) : Prop extends Quiet b b' where
  known : b'.jobs = b.jobs

namespace Bridge.Settled

instance : IsPreorder (Bridge σ) Settled where
  refl b := ⟨.refl b, rfl⟩
  trans _ _ _ h h' := ⟨h.toQuiet.trans h'.toQuiet, h'.known.trans h.known⟩

theorem trans {b b' b'' : Bridge σ} (h : Settled b b') (h' : Settled b' b'') : Settled b b'' :=
  IsTrans.trans _ _ _ h h'

theorem conversing : Conversing (Settled : Bridge σ → Bridge σ → Prop) where
  machine b m := ⟨.withMachine b m, rfl⟩
  called b symbol target := ⟨.called b symbol target, rfl⟩
  remarked b r _ := ⟨.remarked b r, rfl⟩
  scratch b s := ⟨.withScratch b s, rfl⟩
  charge b m cells := ⟨.charge b m cells, rfl⟩

theorem job {b b' : Bridge σ} (h : Settled b b') (j : Job) : b'.job j = b.job j :=
  congrArg (·.get j.index) h.known

end Bridge.Settled

/-! ## Failures that no status stands behind -/

/-- Is it the failure of a native call? -/
def Failure.isNative : Failure → Bool
  | native .. => true
  | _ => false

/-- Is every failure of a call of a sort? -/
def Action.FailsAs (P : Failure → Prop) (x : Action σ α) : Prop :=
  ∀ b e, (x b).1 = .error e → P e

namespace Action.FailsAs

variable {P : Failure → Prop} {x : Action σ α}

theorem of_total (hx : x.Total) : x.FailsAs P := by
  intro b e he
  obtain ⟨a, ha⟩ := hx b
  cases ha.symm.trans he

theorem pure (a : α) : (Pure.pure a : Action σ α).FailsAs P := of_total (.pure a)

theorem fail {e : Failure} (h : P e) : (Action.fail e : Action σ α).FailsAs P := by
  intro b e' he
  cases he
  exact h

theorem bind {f : α → Action σ β} (hx : x.FailsAs P) (hf : ∀ a, (f a).FailsAs P) :
    (x >>= f).FailsAs P := by
  intro b e he
  rcases h : x b with ⟨e' | a, b'⟩
  · rw [bind_of_error h] at he
    cases he
    exact hx b e (congrArg Prod.fst h)
  · rw [bind_of_ok h] at he
    exact hf a b' e he

theorem map {f : α → β} (hx : x.FailsAs P) : (f <$> x).FailsAs P := hx.bind fun a => .pure (f a)

/-- An adoption is refused by its manager or not at all. -/
theorem adopt (hP : P .managerClosed) (m : Manager) (h : Handle) (kind : Kind)
    (releaser : Releaser σ) : (Resource.adopt m h kind releaser).FailsAs P := by
  intro b e he
  cases hm : (b.manager m).closed with
  | true =>
    rw [Resource.adopt_of_closed hm] at he
    cases he
    exact hP
  | false =>
    rw [Resource.adopt_of_open hm] at he
    cases he

/-- A converter fails as it is made to, or for want of a value or of a manager. -/
theorem convert {converter : Converter σ} (hclosed : P .managerClosed)
    (hnull : ∀ operation, P (.nullHandle operation)) (hreject : ∀ e, converter = .reject e → P e)
    (value : TakenValue) : (value.convert converter).FailsAs P := by
  have habandon : (value.abandon : Action σ Unit).Total := by
    rw [TakenValue.abandon]
    split
    · exact .remark _
    · exact .pure ()
  cases converter with
  | void => exact .bind (of_total habandon) fun _ => .pure _
  | inspect => exact .bind (of_total habandon) fun _ => .pure _
  | reject e => exact .bind (of_total habandon) fun _ => .fail (hreject e rfl)
  | adopt kind dispose failure =>
    rw [TakenValue.convert]
    split
    · exact .fail (hnull _)
    · exact .bind (adopt hclosed _ _ _ _) fun _ => .pure _

end Action.FailsAs

/-! ## What a call comes to -/

/-- What a caller is told when an entry point fails: the status, unless all that it says is that
there is no such field. -/
def Status.failure (status : Status) (absent : Option α) (d : Option Diagnostic) :
    Except Failure α :=
  match if status = .codeNotFound then absent else none with
  | some a => .ok a
  | none => .error (.ofStatus status d)

/-- **What a call comes to** when its entry point answers with a status. -/
structure Bridge.Heeds (b : Bridge σ) (status : Status) (absent : Option α)
    (rejects : Failure → Prop) (x : Except Failure α × Bridge σ) : Prop where
  failed : status.isOk = false → Settled b x.2 ∧ ∃ d, x.1 = status.failure absent d
  succeeded : status.isOk = true → ∀ e, x.1 = .error e → e.isNative = true → rejects e

namespace Bridge.Heeds

variable {b b' : Bridge σ} {status : Status} {rejects : Failure → Prop}

theorem of_isOk {absent : Option α} {x : Except Failure α × Bridge σ} (hok : status.isOk = true)
    (h : ∀ e, x.1 = .error e → e.isNative = true → rejects e) :
    b.Heeds status absent rejects x :=
  ⟨fun hfailed => Bool.noConfusion (hok.symm.trans hfailed), fun _ => h⟩

theorem of_failed {absent : Option α} {x : Except Failure α × Bridge σ}
    (hfailed : status.isOk = false) (hsettled : Settled b x.2)
    (h : ∃ d, x.1 = status.failure absent d) : b.Heeds status absent rejects x :=
  ⟨fun _ => ⟨hsettled, h⟩, fun hok => Bool.noConfusion (hok.symm.trans hfailed)⟩

/-- What was settled before the entry point was called is settled. -/
theorem after {absent : Option α} {x : Except Failure α × Bridge σ} (hsettled : Settled b b')
    (h : b'.Heeds status absent rejects x) : b.Heeds status absent rejects x :=
  ⟨fun hfailed => ⟨hsettled.trans (h.failed hfailed).1, (h.failed hfailed).2⟩, h.succeeded⟩

/-- A native call that settles what it does comes to what it is told. -/
theorem of_reported {x : Except Failure α × Bridge σ} {a : Answer α} (hx : a.Reported x.1)
    (hsettled : Settled b x.2) : b.Heeds a.status none rejects x := by
  obtain ⟨r, b'⟩ := x
  cases hx with
  | written hok => exact .of_isOk hok fun e he => by cases he
  | failed d hfailed => exact .of_failed hfailed hsettled ⟨d, by rw [Status.failure, ite_self]⟩

/-- What comes after a call has no part in its failure. -/
theorem bind {x : Action σ α} {f : α → Action σ β} (hx : b.Heeds status none rejects (x b))
    (hf : ∀ v, (f v).FailsAs fun e => e.isNative = true → rejects e) :
    b.Heeds status none rejects ((x >>= f) b) := by
  rcases h : x b with ⟨e | v, b'⟩ <;> rw [h] at hx
  · rw [bind_of_error h]
    refine ⟨fun hfailed => ?_, fun hok e' he' => hx.succeeded hok e' ?_⟩
    · obtain ⟨hsettled, d, hd⟩ := hx.failed hfailed
      rw [Status.failure, ite_self] at hd
      cases hd
      exact ⟨hsettled, d, by rw [Status.failure, ite_self]⟩
    · cases he'
      rfl
  · rw [bind_of_ok h]
    refine ⟨fun hfailed => ?_, fun _ => hf v b'⟩
    obtain ⟨-, d, hd⟩ := hx.failed hfailed
    rw [Status.failure, ite_self] at hd
    cases hd

theorem map {absent : Option α} {x : Action σ α} (h : b.Heeds status absent rejects (x b))
    (f : α → β) : b.Heeds status (absent.map f) rejects ((f <$> x) b) := by
  rw [map_apply]
  refine ⟨fun hfailed => ?_, fun hok e he => h.succeeded hok e ?_⟩
  · obtain ⟨hsettled, d, hd⟩ := h.failed hfailed
    refine ⟨hsettled, d, ?_⟩
    rw [hd, Status.failure, Status.failure]
    cases absent <;> split <;> simp_all [Except.map]
  · rcases hx : (x b).1 with e' | a <;> rw [hx] at he <;> cases he
    rfl

end Bridge.Heeds

/-! ## Calls on open objects -/

open Bridge

variable {b : Bridge σ} {ctx : Option Context} {c : Option Handle} {rejects : Failure → Prop}

/-- A call that goes on after a native call comes to what its entry point answers. -/
theorem Bridge.Heeds.of_call {b₁ : Bridge σ} (hsettled : Settled b b₁)
    (hmachine : b₁.machine = b.machine) (hpassed : b.passed ctx = some c) (out : Buffer)
    (cell : α → Cell) (symbol : Symbol) (target : Option Handle)
    (native : Option Handle → Call σ α) {f : α → Action σ β}
    (hf : ∀ v, (f v).FailsAs fun e => e.isNative = true → rejects e) :
    b.Heeds (native c b.machine).1.status none rejects
      ((callNative ctx symbol (fun c => invokeInto out cell symbol target (native c)) >>= f)
        b₁) := by
  have hcall (c : Option Handle) (b : Bridge σ) :
      (invokeInto out cell symbol target (native c) b).1 = .ok (native c b.machine).1 := rfl
  have hreports := callNative_reports symbol native hcall ((hsettled.passed ctx).trans hpassed)
  have hmade := Settled.conversing.callNative ctx symbol
    (fun c => Settled.conversing.invokeInto out cell symbol target (native c)) b₁
  rw [hmachine] at hreports
  exact .after hsettled (.bind (.of_reported hreports hmade) hf)

namespace Resource

variable {r : Resource} (hlive : b.Live r)

include hlive

/-- Taking memory for an answer settles nothing, and the handle can be used. -/
theorem allocate_of_live (cells : List Cell) :
    ∃ out b', (b.resource r).manager.allocate cells b = (.ok out, b') ∧ Settled b b' ∧
      b'.machine = b.machine ∧ ∀ (β : Type) (f : Handle → Action σ β),
        r.withHandle f b' = f (b.resource r).handle b' := by
  obtain ⟨out, scratch, n, halloc⟩ := Manager.allocate_of_open hlive.2 cells
  have hopen : ((b.spend (b.resource r).manager scratch n).resource r).closed = false := hlive.1
  exact ⟨out, _, halloc, ⟨.spend b _ scratch n, rfl⟩, rfl,
    fun _ f => withHandle_of_open hopen f⟩

theorem query_heeds (hpassed : b.passed ctx = some c) (symbol : Symbol)
    (call : Option Handle → Option Handle → Call σ (Option Bool)) :
    b.Heeds (call c (some (b.resource r).handle) b.machine).1.status none rejects
      (r.query ctx symbol call b) := by
  obtain ⟨out, b₁, halloc, hsettled, hmachine, hopen⟩ := allocate_of_live hlive [.flag false]
  have halloc' : r.allocate [.flag false] b = (.ok out, b₁) := halloc
  rw [query, bind_of_ok halloc', hopen]
  exact .of_call hsettled hmachine hpassed _ _ _ _ (fun c => call c (some (b.resource r).handle))
    fun _ => .pure _

end Resource

namespace Context

variable {X : Context} (hlive : b.Live (b.context X).resource)

include hlive

/-- A field that a context does not have is absent. -/
theorem field_heeds (symbol : Symbol) (initial : Cell) (cell : α → Cell)
    (getter : EntryPoints σ → Option Handle → Bool → Call σ α) :
    b.Heeds (getter (b.context X).library.entry
        (some (b.resource (b.context X).resource).handle) true b.machine).1.status
      (some none) rejects (X.field symbol initial cell getter b) := by
  obtain ⟨out, b₁, halloc, hsettled, hmachine, hopen⟩ :=
    Resource.allocate_of_live hlive [initial]
  have halloc' : (b.context X).resource.allocate [initial] b = (.ok out, b₁) := halloc
  rw [field, bind_of_ok (read_apply _ _), bind_of_ok halloc', hopen]
  generalize (b.resource (b.context X).resource).handle = h
  have hinvoke : invokeInto out cell symbol (some h)
      (getter (b.context X).library.entry (some h) true) b₁ =
        (.ok (getter (b.context X).library.entry (some h) true b.machine).1, _) :=
    Prod.ext (by rw [← hmachine]; rfl) rfl
  have hmade := hsettled.trans (Settled.conversing.invokeInto out cell symbol (some h)
    (getter (b.context X).library.entry (some h) true) b₁)
  rw [bind_of_ok hinvoke]
  cases hok : (getter (b.context X).library.entry (some h) true b.machine).1.status.isOk with
  | true =>
    rw [if_pos rfl]
    exact .of_isOk hok fun e he => by cases he
  | false =>
    rw [if_neg Bool.false_ne_true]
    split
    · rename_i habsent
      exact .of_failed hok hmade ⟨none, by rw [Status.failure, if_pos habsent]; rfl⟩
    · rename_i hfailed
      exact .of_failed hok hmade ⟨none, by rw [Status.failure, if_neg hfailed]; rfl⟩

theorem unsignedField_heeds (symbol : Symbol)
    (getter : EntryPoints σ → Option Handle → Bool → Call σ (Option UInt32)) :
    b.Heeds (getter (b.context X).library.entry
        (some (b.resource (b.context X).resource).handle) true b.machine).1.status
      (some 0) rejects (X.unsignedField symbol getter b) :=
  (field_heeds hlive symbol _ _ getter).map fun n => n.join.getD 0

theorem signedField_heeds (symbol : Symbol)
    (getter : EntryPoints σ → Option Handle → Bool → Call σ (Option Int32)) :
    b.Heeds (getter (b.context X).library.entry
        (some (b.resource (b.context X).resource).handle) true b.machine).1.status
      (some none) rejects (X.signedField symbol getter b) :=
  (field_heeds hlive symbol _ _ getter).map (Option.map fun n : Option Int32 => n.getD 0)

theorem textField_heeds (symbol : Symbol)
    (getter : EntryPoints σ → Option Handle → Bool → Call σ (Option StringOut)) :
    b.Heeds (getter (b.context X).library.entry
        (some (b.resource (b.context X).resource).handle) true b.machine).1.status
      (some none) rejects (X.textField symbol getter b) :=
  (field_heeds hlive symbol _ _ getter).map
    fun s : Option (Option StringOut) => readText s.join.join

omit hlive in
/-- The snapshot is what is asked for, so only the status that it starts from can fail it. -/
theorem diagnostic_heeds (hopen : (b.resource (b.context X).resource).closed = false) :
    b.Heeds ((b.context X).library.entry.contextReturnCode
        (some (b.resource (b.context X).resource).handle) true b.machine).1.status
      none rejects (X.diagnostic b) := by
  rw [diagnostic, bind_of_ok (read_apply _ _), Resource.withHandle_of_open hopen]
  generalize (b.resource (b.context X).resource).handle = h
  let getter := (b.context X).library.entry.contextReturnCode (some h) true
  have hinvoke : invoke .contextReturnCode (some h) getter b = (.ok (getter b.machine).1, _) := rfl
  have hmade := Settled.conversing.invoke .contextReturnCode (some h) getter b
  rw [bind_of_ok hinvoke]
  cases hok : (getter b.machine).1.status.isOk with
  | true =>
    rw [if_pos rfl]
    exact .of_isOk hok (FailsAs.of_total (readDiagnostic_total _ _ _) _)
  | false =>
    rw [if_neg Bool.false_ne_true]
    exact .of_failed hok hmade ⟨none, by rw [Status.failure, ite_self]; rfl⟩

end Context

namespace Job

/-- The status that the entry point of a take answers with. -/
def State.takeStatus (s : State σ) (c : Option Handle) (h : Handle) (m : Machine σ) :
    TakeMode → Status
  | .blocking => (s.library.entry.jobTake c (some h) true m).1.status
  | .bounded limit =>
    (s.library.entry.jobTakeFor c (some h) (Duration.saturate limit) true m).1.status
  | .ifReady => (s.library.entry.jobTakeIfReady c (some h) true true m).1.status

theorem takeNatively_reports (s : State σ) (h : Handle) (valueOut readyOut : Buffer)
    (mode : TakeMode) (hpassed : b.passed ctx = some c) :
    ∃ a : Answer (Option (Option Handle)), a.status = s.takeStatus c h b.machine mode ∧
      a.Reported (takeNatively s ctx h valueOut readyOut mode b).1 := by
  cases mode with
  | blocking =>
    rw [takeNatively, map_apply]
    exact ⟨_, rfl, (callNative_reports _ (fun c => s.library.entry.jobTake c (some h) true)
      (fun _ _ => rfl) hpassed).map some⟩
  | bounded limit =>
    rw [takeNatively, map_apply]
    exact ⟨_, rfl, (callNative_reports _ (fun c =>
      s.library.entry.jobTakeFor c (some h) (Duration.saturate limit) true)
      (fun _ _ => rfl) hpassed).map some⟩
  | ifReady =>
    let pick (written : Option Bool × Option Handle) : Option (Option Handle) :=
      if written.1.getD false then some written.2 else none
    exact ⟨_, rfl, (congrArg (Answer.Reported _) (congrArg Prod.fst (map_apply _ pick b))).mpr
      ((callNative_reports .jobTakeIfReady (fun c =>
        s.library.entry.jobTakeIfReady c (some h) true true) (fun _ _ => rfl) hpassed).map pick)⟩

variable {j : Job} (hlive : b.Live (b.job j).resource) (hpassed : b.passed ctx = some c)

include hlive hpassed

/-- A name that the library does not give is not remembered. -/
theorem name_heeds (hname : (b.job j).name = none) :
    b.Heeds ((b.job j).library.entry.jobName c (some (b.resource (b.job j).resource).handle) true
      b.machine).1.status none rejects (j.name ctx b) := by
  obtain ⟨out, b₁, halloc, hsettled, hmachine, hopen⟩ :=
    Resource.allocate_of_live hlive [.ofString none]
  have halloc' : (b.job j).resource.allocate [.ofString none] b = (.ok out, b₁) := halloc
  rw [name, bind_of_ok (read_apply _ _), hname]
  dsimp only
  rw [lookUpName, bind_of_ok (read_apply _ _), bind_of_ok halloc', bind_apply, hopen,
    ← bind_apply]
  exact .of_call hsettled hmachine hpassed out _ _ _
    (fun c => (b.job j).library.entry.jobName c _ true)
    fun _ => .bind (.of_total (.update _)) fun _ => .pure _

/-- A take that the library does not let through leaves the job as it was. -/
theorem take?_heeds (htaken : (b.job j).taken = false) (mode : TakeMode)
    (hreject : ∀ e, (b.job j).converter = .reject e → rejects e) :
    b.Heeds ((b.job j).takeStatus c (b.resource (b.job j).resource).handle b.machine mode) none
      rejects (j.take? ctx mode b) := by
  obtain ⟨valueOut, readyOut, b₁, hquiet, hmachine, hjobs, -, -, htake⟩ :=
    takeOnce_of_open hlive.2 ctx mode
  rw [if_neg (Bool.eq_false_iff.1 hlive.1), if_neg (Bool.eq_false_iff.1 htaken)] at htake
  have hsettled : Settled b b₁ := ⟨hquiet, hjobs⟩
  have hpassed₁ := (hquiet.passed ctx).trans hpassed
  let h := (b.resource (b.job j).resource).handle
  obtain ⟨a, hstatus, hreported⟩ :=
    takeNatively_reports (b.job j) h valueOut readyOut mode hpassed₁
  have hmade := hsettled.trans
    (Settled.conversing.takeNatively (b.job j) ctx h valueOut readyOut mode b₁)
  have hanswer := takeNatively_toOption (b.job j) ctx h valueOut readyOut mode b₁
  rw [hmachine] at hstatus
  rw [← hstatus]
  rcases hresult : takeNatively (b.job j) ctx h valueOut readyOut mode b₁ with
    ⟨e | _ | value, b₂⟩ <;> rw [hresult] at hreported hmade hanswer
  · cases hreported with
    | failed d hfailed =>
      rw [take?, bind_of_ok (read_apply _ _), bind_of_ok (read_apply _ _),
        bind_of_error (htake.trans (bind_of_error hresult))]
      exact .of_failed hfailed hmade ⟨d, by rw [Status.failure, ite_self]⟩
  · rw [take?, bind_of_ok (read_apply _ _), bind_of_ok (read_apply _ _),
      bind_of_ok (htake.trans (bind_of_ok hresult))]
    exact .of_isOk hreported.isOk fun e he => by cases he
  · have hover : b.handedOver j ctx mode = some value := by
      rw [handedOver_of_reach htaken (reach_of_open hlive.1 hlive.2), ← hmachine,
        ← hquiet.passed, ← hanswer]
      rfl
    obtain ⟨_, b₃, label, -, -, hconvert⟩ := take?_of_some hover
    rw [hconvert]
    have hconverted := FailsAs.convert (P := fun e => e.isNative = true → rejects e)
      (fun h => Bool.noConfusion h) (fun _ h => Bool.noConfusion h) fun e he _ => hreject e he
    exact .of_isOk hreported.isOk ((hconverted _).map _)

theorem takeExpecting_heeds (htaken : (b.job j).taken = false) (symbol : Symbol) (mode : TakeMode)
    (hreject : ∀ e, (b.job j).converter = .reject e → rejects e) :
    b.Heeds ((b.job j).takeStatus c (b.resource (b.job j).resource).handle b.machine mode) none
      rejects (takeExpecting symbol (j.take? ctx mode) b) := by
  refine .bind (take?_heeds hlive hpassed htaken mode hreject) fun answer => ?_
  split
  · exact .pure _
  · exact .fail fun h => Bool.noConfusion h

/-- A request that the library does not take gives nothing to track. -/
theorem cancelAsync_heeds :
    b.Heeds ((b.job j).library.entry.jobCancelAsync c
      (some (b.resource (b.job j).resource).handle) true b.machine).1.status none rejects
      (j.cancelAsync ctx b) := by
  obtain ⟨out, b₁, halloc, hsettled, hmachine, hopen⟩ :=
    Resource.allocate_of_live hlive [.ofHandle none]
  rw [cancelAsync, bind_of_ok (read_apply _ _), bind_of_ok (read_apply _ _), bind_of_ok halloc,
    bind_apply, hopen, ← bind_apply]
  refine .of_call hsettled hmachine hpassed out _ _ _
    (fun c => (b.job j).library.entry.jobCancelAsync c _ true) fun tracker => ?_
  split
  · exact .pure _
  · exact .map (.bind (.adopt (fun h => Bool.noConfusion h) _ _ _ _) fun _ =>
      .bind (.of_total (.read _)) fun _ => .bind (.of_total (.update _)) fun _ => .pure _)

end Job

/-- A context that the library does not create is not put under management. -/
theorem Context.create_heeds {m : Manager} (hm : (b.manager m).closed = false)
    (library : Library σ) :
    b.Heeds (library.entry.contextCreate true b.machine).1.status none rejects
      (Context.create library m b) := by
  obtain ⟨out, scratch, n, halloc⟩ := Manager.allocate_of_open hm [.ofHandle none]
  let b₁ := b.spend m scratch n
  have hspend : Settled b b₁ := ⟨.spend b m scratch n, rfl⟩
  let create := library.entry.contextCreate true
  have hinvoke : invokeInto out .ofHandle .contextCreate none create b₁ =
      (.ok (create b.machine).1, _) := rfl
  have hmade := hspend.trans
    (Settled.conversing.invokeInto out .ofHandle .contextCreate none create b₁)
  rw [Context.create, bind_of_ok halloc, bind_of_ok hinvoke]
  cases hok : (create b.machine).1.status.isOk with
  | true =>
    rw [if_pos rfl]
    refine .of_isOk hok ?_
    cases (create b.machine).1.written with
    | none => exact FailsAs.fail (fun h => Bool.noConfusion h) _
    | some h => exact FailsAs.bind (.adopt (fun h => Bool.noConfusion h) _ _ _ _) (fun _ =>
        .bind (.of_total (.read _)) fun _ => .bind (.of_total (.update _)) fun _ => .pure _) _
  | false =>
    rw [if_neg Bool.false_ne_true]
    exact .of_failed hok hmade ⟨none, by rw [Status.failure, ite_self]; rfl⟩

/-! ## Operations -/

/-- Can an object be used: is it open, and its manager? -/
def Bridge.Usable (b : Bridge σ) : Object → Prop
  | .manager m => (b.manager m).closed = false
  | .resource r => b.Live r
  | .context c => b.Live (b.context c).resource
  | .job j => b.Live (b.job j).resource
  | .cancellation k => b.Live (b.cancellation k).resource

namespace Operation

/-- The status that the entry point of a call answers with when it is passed a context.  A name that
is known is not asked for, and neither is a result that was taken. -/
def status? (b : Bridge σ) (c : Option Handle) : {α : Type} → Operation σ α → Option Status
  | _, createContext library _ => some (library.entry.contextCreate true b.machine).1.status
  | _, returnCode X => some (ofContext X (·.contextReturnCode))
  | _, errorType X => some (ofContext X (·.contextErrorType))
  | _, errorName X => some (ofContext X (·.contextErrorName))
  | _, errorMessage X => some (ofContext X (·.contextErrorMessage))
  | _, categoryNumber X => some (ofContext X (·.contextCategoryNumber))
  | _, categoryText X => some (ofContext X (·.contextCategoryText))
  | _, codeNumber X => some (ofContext X (·.contextCodeNumber))
  | _, structuredCode X => some (ofContext X (·.contextStructuredCode))
  | _, diagnostic X => some (ofContext X (·.contextReturnCode))
  | _, jobName j _ =>
    if (b.job j).name.isSome then none
    else some (ofJob j fun e h => (e.jobName c h true b.machine).1.status)
  | _, jobWait j _ limit =>
    some (ofJob j fun e h => (e.jobWait c h (Duration.saturate limit) true b.machine).1.status)
  | _, jobIsDone j _ => some (ofJob j fun e h => (e.jobIsDone c h true b.machine).1.status)
  | _, jobTake j _ => ofTake j .blocking
  | _, jobTakeFor j _ limit => ofTake j (.bounded limit)
  | _, jobTakeIfReady j _ => ofTake j .ifReady
  | _, jobCancel j _ => some (ofJob j fun e h => (e.jobCancel c h true b.machine).1.status)
  | _, jobCancelFor j _ limit => some (ofJob j fun e h =>
    (e.jobCancelFor c h (Duration.saturate limit) true b.machine).1.status)
  | _, jobCancelAsync j _ =>
    some (ofJob j fun e h => (e.jobCancelAsync c h true b.machine).1.status)
  | _, cancellationWait k _ limit => some (ofCancellation k fun e h =>
    (e.cancelJobWait c h (Duration.saturate limit) true b.machine).1.status)
  | _, cancellationIsDone k _ =>
    some (ofCancellation k fun e h => (e.cancelJobIsDone c h true b.machine).1.status)
  | _, _ => none
where
  /-- Through the handle of a context. -/
  ofContext {α : Type} (X : Context)
      (getter : EntryPoints σ → Option Handle → Bool → Call σ α) : Status :=
    let s := b.context X
    (getter s.library.entry (some (b.resource s.resource).handle) true b.machine).1.status
  /-- Through the handle of a job. -/
  ofJob (j : Job) (call : EntryPoints σ → Option Handle → Status) : Status :=
    let s := b.job j
    call s.library.entry (some (b.resource s.resource).handle)
  /-- Through the handle of a job whose result was not taken. -/
  ofTake (j : Job) (mode : TakeMode) : Option Status :=
    let s := b.job j
    if s.taken then none else some (s.takeStatus c (b.resource s.resource).handle b.machine mode)
  /-- Through the handle of a cancel request. -/
  ofCancellation (k : Cancellation) (call : EntryPoints σ → Option Handle → Status) : Status :=
    let s := b.cancellation k
    call s.library.entry (some (b.resource s.resource).handle)

theorem ofTake_eq_some {j : Job} {mode : TakeMode} {status : Status}
    (h : status?.ofTake b c j mode = some status) : (b.job j).taken = false ∧
      (b.job j).takeStatus c (b.resource (b.job j).resource).handle b.machine mode = status := by
  rw [status?.ofTake] at h
  split at h
  · cases h
  · rename_i htaken
    exact ⟨Bool.eq_false_iff.2 htaken, Option.some.inj h⟩

/-- What a call gives when a context does not have the field that it asks for. -/
def absent? : {α : Type} → Operation σ α → Option α
  | _, returnCode _ => some .ok
  | _, errorType _ => some .ok
  | _, errorName _ | _, errorMessage _ | _, categoryText _ | _, structuredCode _ => some none
  | _, categoryNumber _ | _, codeNumber _ => some none
  | _, _ => none

/-- **A call comes to what its entry point answers.** -/
theorem heeds_status (op : Operation σ α) (hopen : ∀ o, op.objects.head? = some o → b.Usable o)
    (hpassed : b.passed op.context? = some c) {status : Status}
    (hstatus : op.status? b c = some status) :
    b.Heeds status op.absent?
      (fun e => ∃ j, op.consumed = some j ∧ (b.job j).converter = .reject e) (op.perform b) := by
  have hlive {o : Object} (ho : op.objects.head? = some o) : b.Usable o := hopen o ho
  cases op with
  | createContext library m => cases hstatus; exact Context.create_heeds (hlive rfl) library
  | returnCode X =>
    cases hstatus
    exact (Context.unsignedField_heeds (hlive rfl) .contextReturnCode _).map Status.mk
  | errorType X =>
    cases hstatus
    exact (Context.unsignedField_heeds (hlive rfl) .contextErrorType _).map Origin.ofRaw
  | errorName X => cases hstatus; exact Context.textField_heeds (hlive rfl) .contextErrorName _
  | errorMessage X =>
    cases hstatus; exact Context.textField_heeds (hlive rfl) .contextErrorMessage _
  | categoryNumber X =>
    cases hstatus; exact Context.signedField_heeds (hlive rfl) .contextCategoryNumber _
  | categoryText X =>
    cases hstatus; exact Context.textField_heeds (hlive rfl) .contextCategoryText _
  | codeNumber X =>
    cases hstatus; exact Context.signedField_heeds (hlive rfl) .contextCodeNumber _
  | structuredCode X =>
    cases hstatus; exact Context.textField_heeds (hlive rfl) .contextStructuredCode _
  | diagnostic X => cases hstatus; exact Context.diagnostic_heeds (hlive rfl).1
  | jobName j ctx =>
    rw [status?] at hstatus
    split at hstatus
    · cases hstatus
    · rename_i hname
      cases hstatus
      exact Job.name_heeds (hlive rfl) hpassed (Option.not_isSome_iff_eq_none.1 hname)
  | jobWait j ctx limit =>
    cases hstatus
    exact Resource.query_heeds (hlive rfl) hpassed .jobWait fun c h =>
      (b.job j).library.entry.jobWait c h (Duration.saturate limit) true
  | jobIsDone j ctx =>
    cases hstatus
    exact Resource.query_heeds (hlive rfl) hpassed .jobIsDone fun c h =>
      (b.job j).library.entry.jobIsDone c h true
  | jobTake j ctx =>
    obtain ⟨htaken, rfl⟩ := ofTake_eq_some hstatus
    exact Job.takeExpecting_heeds (hlive rfl) hpassed htaken _ _ fun e he => ⟨j, rfl, he⟩
  | jobTakeFor j ctx limit =>
    obtain ⟨htaken, rfl⟩ := ofTake_eq_some hstatus
    exact Job.takeExpecting_heeds (hlive rfl) hpassed htaken _ _ fun e he => ⟨j, rfl, he⟩
  | jobTakeIfReady j ctx =>
    obtain ⟨htaken, rfl⟩ := ofTake_eq_some hstatus
    exact Job.take?_heeds (hlive rfl) hpassed htaken _ fun e he => ⟨j, rfl, he⟩
  | jobCancel j ctx =>
    cases hstatus
    exact Resource.query_heeds (hlive rfl) hpassed .jobCancel fun c h =>
      (b.job j).library.entry.jobCancel c h true
  | jobCancelFor j ctx limit =>
    cases hstatus
    exact Resource.query_heeds (hlive rfl) hpassed .jobCancelFor fun c h =>
      (b.job j).library.entry.jobCancelFor c h (Duration.saturate limit) true
  | jobCancelAsync j ctx => cases hstatus; exact Job.cancelAsync_heeds (hlive rfl) hpassed
  | cancellationWait k ctx limit =>
    cases hstatus
    exact Resource.query_heeds (hlive rfl) hpassed .cancelJobWait fun c h =>
      (b.cancellation k).library.entry.cancelJobWait c h (Duration.saturate limit) true
  | cancellationIsDone k ctx =>
    cases hstatus
    exact Resource.query_heeds (hlive rfl) hpassed .cancelJobIsDone fun c h =>
      (b.cancellation k).library.entry.cancelJobIsDone c h true
  | _ => cases hstatus

/-- **A status other than success is never dropped, and never half applied.**  Whatever else the
entry point wrote, the caller is told the status, or that a field is absent, and nothing of any
object changed; and after a success there is no native failure but one that a converter makes. -/
theorem reports_status (op : Operation σ α)
    (hopen : ∀ o, op.objects.head? = some o → b.Usable o) (hpassed : b.passed op.context? = some c)
    {status : Status} (hstatus : op.status? b c = some status) :
    (status.isOk = false →
      Settled b (op.after b) ∧ ∃ d, (op.perform b).1 = status.failure op.absent? d) ∧
    (status.isOk = true → ∀ e, (op.perform b).1 = .error e → e.isNative = true →
      ∃ j, op.consumed = some j ∧ (b.job j).converter = .reject e) :=
  have h := op.heeds_status hopen hpassed hstatus
  ⟨h.failed, h.succeeded⟩

/-- A wait that runs into its limit, though the library wrote that the job is done. -/
theorem reports_status_of_timeout :
    ∃ (b : Bridge Unit) (d : Option Diagnostic),
      ((Operation.jobWait ⟨0⟩ none 5).perform b).1 = .error (.ofStatus .timeout d) ∧
        Settled b ((Operation.jobWait ⟨0⟩ none 5).after b) := by
  let entry : EntryPoints Unit :=
    { EntryPoints.idle Unit with jobWait := fun _ _ _ _ m => (⟨.timeout, some true⟩, m) }
  let b := (Operation.adoptJob ⟨.inProcess "late", entry⟩ ⟨0⟩ (.ofIndex 7) .void).after
    ((Operation.createManager 16).after (.start () []))
  have hstatus : (Operation.jobWait ⟨0⟩ none 5).status? b none = some .timeout := rfl
  obtain ⟨hsettled, d, hd⟩ := ((Operation.jobWait ⟨0⟩ none 5).reports_status
    (fun o ho => by cases ho; exact ⟨by decide, by decide⟩) rfl hstatus).1 rfl
  exact ⟨b, d, hd, hsettled⟩

end Operation

end HandleBridge
