import HandleBridge.Proofs.Refusal
import Mathlib.Algebra.Group.Nat.Defs

/-!
# Proofs/Diagnosing — every field of a snapshot is read by a getter of its own

The getters of a context are called one after the other, each at the machine that the one before it
left, and they write to variables that they share.  A getter that is called with a cleared variable
gives what it wrote and nothing else (`Reading.diagnostic_takeText`); one that writes nothing leaves
in its variable what the getter before it put there, so clearing the variables in between is what
keeps fields apart.  A field is then what its own getter answered, and nothing if that failed.
-/

namespace HandleBridge

open HandleBridge.Action

variable {σ : Type}

/-! ## Where a status originated -/

/-- The top two bits of a status, by its origin. -/
def Origin.bits : Origin → Nat
  | ok => 0
  | ffi => 1
  | client => 2
  | server => 3

theorem Origin.bits_ofRaw {raw : UInt32} (h : raw.toNat < 4) :
    (Origin.ofRaw raw).bits = raw.toNat := by
  rw [Origin.ofRaw, Nat.mod_eq_of_lt h]
  generalize raw.toNat = n at h
  match n, h with
  | 0, _ | 1, _ | 2, _ | 3, _ => rfl

theorem Origin.bits_eq_three {o : Origin} : o.bits = 3 ↔ o = .server := by
  cases o <;> decide

theorem Category.ofOrigin_eq_server {o : Origin} :
    Category.ofOrigin o = .serverDiagnostic ↔ o = .server := by
  cases o <;> decide

theorem Status.bits_origin (s : Status) : s.origin.bits = s.raw.toNat / 2 ^ 30 := by
  have hshift : (s.raw >>> 30).toNat = s.raw.toNat / 2 ^ 30 := by
    rw [UInt32.toNat_shiftRight, Nat.shiftRight_eq_div_pow]
    rfl
  have hlt : s.raw.toNat < 2 ^ 32 := s.raw.toNat_lt
  rw [← hshift]
  exact Origin.bits_ofRaw (by omega)

/-! ## What getters answer -/

/-- The text that a getter gives: what it wrote, if it succeeded and wrote an address. -/
def Answer.text? (a : Answer (Option StringOut)) : Option String :=
  if a.status.isOk then readText a.written.join else none

/-- The number that a getter gives: what it wrote, if it succeeded, and zero if it wrote nothing. -/
def Answer.number? (a : Answer (Option Int32)) : Option Int32 :=
  if a.status.isOk then some (a.written.getD 0) else none

namespace Reading

variable {r : Reading} {d : Diagnostic}

/-- **A cleared variable tells what is written to it.**  The field that it is read for is absent
until then. -/
theorem diagnostic_takeText {enter : Diagnostic → Option String → Diagnostic}
    (hd : r.diagnostic = d) (hcleared : r.text = none) (habsent : enter d none = d)
    (a : Answer (Option StringOut)) : (r.takeText enter a).diagnostic = enter d a.text? := by
  obtain ⟨status, written⟩ := a
  rw [takeText, Answer.text?, hd, hcleared]
  dsimp only
  split
  · cases written <;> rfl
  · exact habsent.symm

theorem diagnostic_takeNumber {enter : Diagnostic → Option Int32 → Diagnostic}
    (hd : r.diagnostic = d) (hcleared : r.number = 0) (habsent : enter d none = d)
    (a : Answer (Option Int32)) : (r.takeNumber enter a).diagnostic = enter d a.number? := by
  rw [takeNumber, Answer.number?, hd, hcleared]
  dsimp only
  split
  · rfl
  · exact habsent.symm

/-- A variable that was not cleared tells what the getter before it wrote, if nothing is written to
it now: the message of this failure would be its name. -/
example : let name : Answer (Option StringOut) := ⟨.ok, some (some [0x4E, 0])⟩
    let message : Answer (Option StringOut) := ⟨.ok, none⟩
    let enter : Diagnostic → Option String → Diagnostic := fun d message => { d with message }
    let r := (start .clientError).takeText (fun d name => { d with name := name.or d.name }) name
    (r.takeText enter message).diagnostic.message = some "N" ∧
      (r.clearText.takeText enter message).diagnostic.message = none := by decide

end Reading

/-- What the getters of a context answer, in turn. -/
structure Answers where
  name : Answer (Option StringOut)
  message : Answer (Option StringOut)
  categoryNumber : Answer (Option Int32)
  categoryText : Answer (Option StringOut)
  codeNumber : Answer (Option Int32)
  structuredCode : Answer (Option StringOut)

/-- The answers of a native library about a context. -/
def EntryPoints.answers (entry : EntryPoints σ) (ctx : Handle) (machine : Machine σ) : Answers :=
  let name := entry.contextErrorName (some ctx) true machine
  let message := entry.contextErrorMessage (some ctx) true name.2
  let categoryNumber := entry.contextCategoryNumber (some ctx) true message.2
  let categoryText := entry.contextCategoryText (some ctx) true categoryNumber.2
  let codeNumber := entry.contextCodeNumber (some ctx) true categoryText.2
  let structuredCode := entry.contextStructuredCode (some ctx) true codeNumber.2
  ⟨name.1, message.1, categoryNumber.1, categoryText.1, codeNumber.1, structuredCode.1⟩

namespace Answers

/-- The snapshot after a failure that is not the server's. -/
def common (a : Answers) (status : Status) : Diagnostic :=
  { Diagnostic.ofStatus status with
    name := some (a.name.text?.getD status.name)
    message := a.message.text? }

/-- The snapshot after a failure of the server's. -/
def full (a : Answers) (status : Status) : Diagnostic :=
  { a.common status with
    categoryNumber := a.categoryNumber.number?
    categoryText := a.categoryText.text?
    codeNumber := a.codeNumber.number?
    structuredCode := a.structuredCode.text? }

theorem isServerError_common (a : Answers) (status : Status) :
    (a.common status).isServerError = true ↔ status.origin = .server := decide_eq_true_iff

theorem isServerError_full (a : Answers) (status : Status) :
    (a.full status).isServerError = true ↔ status.origin = .server := decide_eq_true_iff

end Answers

/-! ## Reading a context -/

section Reading

variable (entry : EntryPoints σ) (ctx : Handle) (status : Status) (b : Bridge σ)

/-- The name falls back on that of the status, and the message on nothing.  The variable for numbers
is still cleared. -/
theorem readCommon_answers :
    ∃ r b', readCommon entry ctx (.start status) b = (.ok r, b') ∧
      r.diagnostic = (entry.answers ctx b.machine).common status ∧ r.number = 0 ∧
      b'.calls = b.calls ++ [(.contextErrorName, some ctx), (.contextErrorMessage, some ctx)] := by
  let a := entry.answers ctx b.machine
  let r := (Reading.start status).takeText (fun d name => { d with name := name.or d.name }) a.name
  let b₁ := (ask .contextErrorName entry.contextErrorName ctx (fun _ => r) b).2
  have hname : r.diagnostic = { Diagnostic.ofStatus status with
      name := a.name.text?.or (some status.name) } :=
    Reading.diagnostic_takeText (r := .start status) rfl rfl rfl a.name
  let r' := r.clearText.takeText (fun d message => { d with message }) a.message
  have hmessage : r'.diagnostic = { Diagnostic.ofStatus status with
      name := a.name.text?.or (some status.name)
      message := a.message.text? } :=
    Reading.diagnostic_takeText (r := r.clearText) hname rfl rfl a.message
  refine ⟨_, _, rfl, hmessage.trans ?_, rfl, ?_⟩
  · rw [Answers.common]
    cases a.name.text? <;> rfl
  · have hfirst : b₁.calls = _ := b.calls_note (.called .contextErrorName (some ctx))
    refine (b₁.calls_note (.called .contextErrorMessage (some ctx))).trans ?_
    rw [hfirst, List.append_assoc]
    rfl

/-- Each of the server's fields is read into a variable that is cleared. -/
theorem readServer_answers {r : Reading}
    (hr : r.diagnostic = (entry.answers ctx b.machine).common status) (hnumber : r.number = 0) :
    ∃ r' b', readServer entry ctx r (readCommon entry ctx (.start status) b).2 = (.ok r', b') ∧
      r'.diagnostic = (entry.answers ctx b.machine).full status := by
  let a := entry.answers ctx b.machine
  let r₁ := r.takeNumber (fun d categoryNumber => { d with categoryNumber }) a.categoryNumber
  let r₂ := r₁.clearText.takeText (fun d categoryText => { d with categoryText }) a.categoryText
  let r₃ := r₂.clearNumber.takeNumber (fun d codeNumber => { d with codeNumber }) a.codeNumber
  have h₁ : r₁.diagnostic = { a.common status with categoryNumber := a.categoryNumber.number? } :=
    Reading.diagnostic_takeNumber hr hnumber rfl _
  have h₂ : r₂.diagnostic = { a.common status with
      categoryNumber := a.categoryNumber.number?
      categoryText := a.categoryText.text? } :=
    Reading.diagnostic_takeText (r := r₁.clearText) h₁ rfl rfl _
  have h₃ : r₃.diagnostic = { a.common status with
      categoryNumber := a.categoryNumber.number?
      categoryText := a.categoryText.text?
      codeNumber := a.codeNumber.number? } :=
    Reading.diagnostic_takeNumber (r := r₂.clearNumber) h₂ rfl rfl _
  exact ⟨_, _, rfl, Reading.diagnostic_takeText (r := r₃.clearText) h₃ rfl rfl a.structuredCode⟩

theorem readDiagnostic_of_not_server (h : status.origin ≠ .server) :
    ∃ b', readDiagnostic entry ctx status b =
        (.ok ((entry.answers ctx b.machine).common status), b') ∧
      b'.calls = b.calls ++ [(.contextErrorName, some ctx), (.contextErrorMessage, some ctx)] := by
  obtain ⟨r, b', heq, hr, -, hcalls⟩ := readCommon_answers entry ctx status b
  refine ⟨b', ?_, hcalls⟩
  rw [readDiagnostic, bind_of_ok heq, hr, if_neg (mt (Answers.isServerError_common _ _).1 h)]
  rfl

theorem readDiagnostic_of_server (h : status.origin = .server) :
    ∃ b', readDiagnostic entry ctx status b =
      (.ok ((entry.answers ctx b.machine).full status), b') := by
  obtain ⟨r, b₁, heq, hr, hnumber, -⟩ := readCommon_answers entry ctx status b
  obtain ⟨r', b', heq', hr'⟩ := readServer_answers entry ctx status b hr hnumber
  rw [heq] at heq'
  refine ⟨b', ?_⟩
  rw [readDiagnostic, bind_of_ok heq, hr, if_pos ((Answers.isServerError_common _ _).2 h),
    bind_of_ok heq', hr']
  rfl

end Reading

/-- **Diagnostic fields are read independently.**  The status, its origin and a name are always
there.  The name and the message are what their getters gave; without that the name is the status's
and there is no message.  Unless the status is a server error the getters for those are not even
called; if it is, each of their fields is what its own getter gave.  The failure that carries the
snapshot is a server's if and only if the snapshot is. -/
theorem readDiagnostic_fields (entry : EntryPoints σ) (ctx : Handle) (status : Status)
    (b : Bridge σ) :
    let a := entry.answers ctx b.machine
    ∃ d b', readDiagnostic entry ctx status b = (.ok d, b') ∧
      d.status = status ∧ d.origin.bits = status.raw.toNat / 2 ^ 30 ∧
      d.name = some (a.name.text?.getD status.name) ∧ d.message = a.message.text? ∧
      (d.isServerError = true ↔ status.raw.toNat / 2 ^ 30 = 3) ∧
      (d.isServerError = false →
        (d.categoryNumber = none ∧ d.categoryText = none ∧ d.codeNumber = none ∧
          d.structuredCode = none) ∧
        b'.calls = b.calls ++ [(.contextErrorName, some ctx), (.contextErrorMessage, some ctx)]) ∧
      (d.isServerError = true →
        d.categoryNumber = a.categoryNumber.number? ∧ d.categoryText = a.categoryText.text? ∧
        d.codeNumber = a.codeNumber.number? ∧ d.structuredCode = a.structuredCode.text?) ∧
      ((Failure.ofStatus status (some d)).category = .serverDiagnostic ↔
        d.isServerError = true) := by
  intro a
  have hbits : status.origin = .server ↔ status.raw.toNat / 2 ^ 30 = 3 := by
    rw [← status.bits_origin, Origin.bits_eq_three]
  by_cases h : status.origin = .server
  · obtain ⟨b', heq⟩ := readDiagnostic_of_server entry ctx status b h
    have hd := a.isServerError_full status
    refine ⟨a.full status, b', heq, rfl, status.bits_origin, rfl, rfl, hd.trans hbits,
      fun hnot => absurd (hd.2 h) (Bool.eq_false_iff.1 hnot), fun _ => ⟨rfl, rfl, rfl, rfl⟩, ?_⟩
    exact Category.ofOrigin_eq_server.trans hd.symm
  · obtain ⟨b', heq, hcalls⟩ := readDiagnostic_of_not_server entry ctx status b h
    have hd := a.isServerError_common status
    refine ⟨a.common status, b', heq, rfl, status.bits_origin, rfl, rfl, hd.trans hbits,
      fun _ => ⟨⟨rfl, rfl, rfl, rfl⟩, hcalls⟩, fun hyes => absurd (hd.1 hyes) h, ?_⟩
    exact Category.ofOrigin_eq_server.trans hd.symm

end HandleBridge
