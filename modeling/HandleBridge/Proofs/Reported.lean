import HandleBridge.Proofs.NativeAnswer
import HandleBridge.Simulation.Reports

/-!
# Proofs/Reported — what a caller is told of a native call

The status that an entry point answers with decides alone: success gives what was written, anything
else a failure that carries the status, and with it a snapshot of the context if there is one.  What
was written by a call that failed is not looked at.
-/

namespace HandleBridge

open HandleBridge.Action

variable {σ α β : Type}

/-- What a caller is told of an answer: what was written, or a failure with the status. -/
inductive Answer.Reported (a : Answer α) : Except Failure α → Prop where
  | written (ok : a.status.isOk = true) : Reported a (.ok a.written)
  | failed (d : Option Diagnostic) (failed : a.status.isOk = false) :
    Reported a (.error (.ofStatus a.status d))

namespace Answer.Reported

theorem map {a : Answer α} {r : Except Failure α} (h : a.Reported r) (f : α → β) :
    (a.map f).Reported (r.map f) := by
  cases h with
  | written ok => exact .written (a := a.map f) ok
  | failed d failed => exact .failed (a := a.map f) d failed

theorem isOk {a : Answer α} {v : α} (h : a.Reported (.ok v)) : a.status.isOk = true := by
  generalize hr : Except.ok v = r at h
  cases h with
  | written ok => exact ok
  | failed d failed => cases hr

theorem written_eq {a : Answer α} {v : α} (h : a.Reported (.ok v)) : a.written = v := by
  generalize hr : Except.ok v = r at h
  cases h with
  | written ok => exact (Except.ok.inj hr).symm
  | failed d failed => cases hr

/-- The status alone decides whether something was written. -/
theorem ok_iff {a : Answer α} {r : Except Failure α} (h : a.Reported r) :
    (∃ v, r = .ok v) ↔ a.status.isOk = true := by
  cases h with
  | written ok => exact iff_of_true ⟨_, rfl⟩ ok
  | failed d failed =>
    refine iff_of_false ?_ (Bool.eq_false_iff.1 failed)
    rintro ⟨v, hv⟩
    cases hv

theorem of_ok {a : α} {r : Except Failure α} (h : Reported ⟨.ok, a⟩ r) : r = .ok a := by
  cases h with
  | written => rfl
  | failed d failed => cases failed

end Answer.Reported

/-! ## The snapshot -/

/-- The snapshot that a call takes of its context when it fails. -/
def Bridge.diagnose (b : Bridge σ) (status : Status) :
    Option Context → Action σ (Option Diagnostic)
  | none => pure none
  | some c => let s := b.context c
    some <$> readDiagnostic s.library.entry (b.resource s.resource).handle status

theorem Bridge.diagnose_total (b : Bridge σ) (status : Status) (ctx : Option Context) :
    (b.diagnose status ctx).Total := by
  cases ctx with
  | none => exact .pure none
  | some c => exact .bind (readDiagnostic_total _ _ _) fun _ => .pure _

/-! ## Calls -/

section Calls

variable {call : Option Handle → Action σ (Answer α)} {ctx : Option Context} {c : Option Handle}
  {a : Answer α} {b b' : Bridge σ}

/-- With an open context a call is made with its handle. -/
theorem callWith_of_passed {X : Context} (hpassed : b.passed (some X) = some c)
    (hcall : call c b = (.ok a, b')) :
    let s := b.context X
    c = some (b.resource s.resource).handle ∧
      callWith X call b = (do
        if a.status.isOk then return (some a.status, .ok a.written)
        let d ← readDiagnostic s.library.entry (b.resource s.resource).handle a.status
        return (some a.status, .error (.ofStatus a.status (some d))) :
          Action σ (Option Status × Except Failure α)) b' := by
  rw [Bridge.passed] at hpassed
  split at hpassed
  · cases hpassed
  · rename_i hopen
    obtain rfl := Option.some.inj hpassed
    refine ⟨rfl, ?_⟩
    rw [callWith, bind_of_ok (read_apply _ _), bind_of_ok (read_apply _ _), if_neg hopen,
      bind_of_ok hcall]

theorem callUnder_of_ok (hpassed : b.passed ctx = some c) (hcall : call c b = (.ok a, b'))
    (hok : a.status.isOk = true) :
    callUnder call ctx b = (.ok (some a.status, .ok a.written), b') := by
  cases ctx with
  | none =>
    obtain rfl : none = c := Option.some.inj hpassed
    rw [callUnder, callAlone, bind_of_ok hcall, if_pos hok]
    rfl
  | some X =>
    rw [callUnder, (callWith_of_passed hpassed hcall).2, if_pos hok]
    rfl

theorem callUnder_of_failed (hpassed : b.passed ctx = some c) (hcall : call c b = (.ok a, b'))
    (hfailed : a.status.isOk = false) {d : Option Diagnostic} {b'' : Bridge σ}
    (hdiagnose : b.diagnose a.status ctx b' = (.ok d, b'')) :
    callUnder call ctx b = (.ok (some a.status, .error (.ofStatus a.status d)), b'') := by
  cases ctx with
  | none =>
    obtain rfl : none = c := Option.some.inj hpassed
    cases hdiagnose
    rw [callUnder, callAlone, bind_of_ok hcall, if_neg (Bool.eq_false_iff.1 hfailed)]
    rfl
  | some X =>
    rw [callUnder, (callWith_of_passed hpassed hcall).2, if_neg (Bool.eq_false_iff.1 hfailed)]
    rw [Bridge.diagnose, map_apply] at hdiagnose
    rcases hread : readDiagnostic (b.context X).library.entry
      (b.resource (b.context X).resource).handle a.status b' with ⟨e | d', b₂⟩ <;>
      rw [hread] at hdiagnose <;> cases hdiagnose
    exact bind_of_ok hread

/-- **A call of an entry point** tells its caller what was answered. -/
theorem callNative_reports (symbol : Symbol) (native : Option Handle → Call σ α)
    (hcall : ∀ c b, (call c b).1 = .ok (native c b.machine).1) (hpassed : b.passed ctx = some c) :
    (native c b.machine).1.Reported (callNative ctx symbol call b).1 := by
  let b₀ := b.note (.remarked (.nativeCall symbol ctx.isSome))
  have hpassed₀ : b₀.passed ctx = some c := ((Quiet.remarked b _).passed ctx).trans hpassed
  have hmade : call c b₀ = (.ok (native c b.machine).1, (call c b₀).2) :=
    Prod.ext (hcall c b₀) rfl
  cases hok : (native c b.machine).1.status.isOk with
  | true =>
    obtain ⟨_, _, heq⟩ := callNative_apply (callUnder_of_ok hpassed₀ hmade hok)
    rw [heq]
    exact .written hok
  | false =>
    obtain ⟨d, hd⟩ := b₀.diagnose_total (native c b.machine).1.status ctx (call c b₀).2
    obtain ⟨_, _, heq⟩ := callNative_apply
      (callUnder_of_failed hpassed₀ hmade hok (Prod.ext hd rfl))
    rw [heq]
    exact .failed d hok

end Calls

end HandleBridge
