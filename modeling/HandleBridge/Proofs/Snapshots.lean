import HandleBridge.Proofs.Apart
import HandleBridge.Proofs.Diagnosing
import HandleBridge.Proofs.Hex
import HandleBridge.Proofs.Spelling

/-!
# Proofs/Snapshots — what a context of the simulated library tells when it is read

A context holds the report of the latest call that it was given, or nothing.  Its snapshot and its
eight getters tell what it holds (`Bridge.recounts`), texts with a space for each zero character,
and reading changes nothing (`Operation.rests_of_reads`).
-/

namespace HandleBridge

open HandleBridge.Action Bridge Simulation

variable {α : Type}

/-! ## Names of statuses -/

/-- The name of a status has no zero character. -/
theorem Status.spellable_name (s : Status) : CString.spellable s.name = true := by
  have hsymbolic : ∀ e ∈ named, CString.spellable e.2 = true := by decide
  obtain hmem | ⟨-, hname⟩ := s.name_cases
  · exact hsymbolic (s, s.name) hmem
  · rw [hname, CString.spellable_iff]
    simp only [digits, String.toList_append, String.toList_ofList, List.mem_append, not_or]
    exact ⟨by decide, Hex.zero_not_mem_fixed 8 _⟩

namespace Simulation

/-! ## The snapshot -/

/-- **What a context tells of what it holds.** -/
def snapshot (latest : Option Report) : Diagnostic where
  status := latestStatus latest
  origin := (latestStatus latest).origin
  name := some (latestStatus latest).name
  message := latest.map fun r => CString.blankZeros r.message
  categoryNumber := (serverDetail latest).map (·.categoryNumber)
  categoryText := (serverDetail latest).map fun d => CString.blankZeros d.categoryText
  codeNumber := (serverDetail latest).map (·.codeNumber)
  structuredCode := (serverDetail latest).map fun d => CString.blankZeros d.structuredCode

/-- Names of statuses are spelled as they are. -/
theorem blankZeros_name (latest : Option Report) :
    (latest.map (·.status.name)).map CString.blankZeros = latest.map (·.status.name) := by
  rw [Option.map_map]
  exact Option.map_congr fun r _ => CString.blankZeros_of_spellable r.status.spellable_name

theorem readText_spelled (text : String) :
    readText (spelled text) = some (CString.blankZeros text) :=
  congrArg some (CString.read_blankZeros text)

/-- Only the server says anything about a failure. -/
def Coherent (latest : Option Report) : Prop :=
  (serverDetail latest).isSome = true → (latestStatus latest).origin = .server

theorem Tells.status {said : String → ServerDetail → Prop} {status : Status}
    {latest : Option Report} (h : Tells said status latest) : latestStatus latest = status := by
  cases h <;> rfl

theorem Tells.coherent {said : String → ServerDetail → Prop} {status : Status}
    {latest : Option Report} (h : Tells said status latest) : Coherent latest := by
  intro hsome
  cases h with
  | success => cases hsome
  | locally failed origin server =>
    rw [serverDetail, Option.bind_some, server] at hsome
    cases hsome
  | server => exact (by decide : Status.serverError.origin = .server)

/-! ## What the getters answer -/

/-- What a getter answers that finds its context. -/
def observed (found : Option α) : Answer (Option α) :=
  match found with
  | some a => ⟨.ok, some a⟩
  | none => ⟨.codeNotFound, none⟩

theorem success?_observed (found : Option α) : (observed found).success? = found.map some := by
  cases found <;> rfl

/-- A text that a getter answers with. -/
def observedText (found : Option (Option String)) : Answer (Option StringOut) :=
  (observed found).map fun text => text.map (·.bind spelled)

theorem readText_observed (found : Option (Option String)) :
    readText (observedText found).success?.join.join = found.join.map CString.blankZeros := by
  rcases found with _ | _ | text
  · rfl
  · rfl
  · exact readText_spelled text

theorem text?_observed (found : Option (Option String)) :
    (observedText found).text? = found.join.map CString.blankZeros := by
  rcases found with _ | _ | text
  · rfl
  · rfl
  · exact readText_spelled text

theorem number?_observed (found : Option Int32) : (observed found).number? = found := by
  cases found <;> rfl

section Getters

variable {m : Machine Simulation} {h : Handle} {latest : Option Report}
  (hslot : m.native.slot? h = some latest)

include hslot

theorem observe_apply (read : Option Report → Option α) :
    observe read (some h) true m = (observed (read latest), m) := by
  obtain ⟨k, hk, rfl⟩ := Option.map_eq_some_iff.1 hslot
  rw [observe, hk]
  dsimp only
  rw [if_pos rfl]
  cases read k.latest <;> rfl

theorem observeText_apply (read : Option Report → Option (Option String)) :
    observeText read (some h) true m = (observedText (read latest), m) := by
  rw [observeText, observe_apply hslot]
  rfl

/-- What the getters of a context answer, one after the other. -/
theorem answers_apply :
    library.entry.answers h m =
      ⟨observedText (some (latest.map (·.status.name))),
        observedText (some (latest.map (·.message))),
        observed ((serverDetail latest).map (·.categoryNumber)),
        observedText ((serverDetail latest).map fun d => some d.categoryText),
        observed ((serverDetail latest).map (·.codeNumber)),
        observedText ((serverDetail latest).map fun d => some d.structuredCode)⟩ := by
  have htext (read : Option Report → Option (Option String)) := observeText_apply hslot read
  have hnumber (read : Option Report → Option Int32) := observe_apply hslot read
  simp only [EntryPoints.answers, library, entryPoints, contextErrorName, contextErrorMessage,
    contextCategoryNumber, contextCategoryText, contextCodeNumber, contextStructuredCode, htext,
    hnumber]

end Getters

end Simulation

/-! ## Snapshots -/

section Snapshots

variable {b : Bridge Simulation} {h : Handle} {latest : Option Report}
  (hslot : b.machine.native.slot? h = some latest)

include hslot

/-- What the getters answer makes up the snapshot. -/
theorem full_answers :
    (library.entry.answers h b.machine).full (latestStatus latest) = snapshot latest := by
  have hname : ((latest.map (·.status.name)).map CString.blankZeros).getD
      (latestStatus latest).name = (latestStatus latest).name := by
    rw [blankZeros_name]
    cases latest <;> rfl
  have hmessage : (latest.map (·.message)).map CString.blankZeros =
      latest.map fun r => CString.blankZeros r.message := Option.map_map ..
  rw [answers_apply hslot, Answers.full, Answers.common]
  simp only [text?_observed, number?_observed, Option.join_some, hname, hmessage]
  cases hserver : serverDetail latest <;> rw [snapshot, hserver] <;> rfl

/-- **A context that is read tells what it holds.** -/
theorem readDiagnostic_apply (hcoherent : Coherent latest) :
    (readDiagnostic library.entry h (latestStatus latest) b).1 = .ok (snapshot latest) := by
  rw [← full_answers hslot]
  by_cases horigin : (latestStatus latest).origin = .server
  · obtain ⟨b', heq⟩ := readDiagnostic_of_server library.entry h _ b horigin
    rw [heq]
  · obtain ⟨b', heq, -⟩ := readDiagnostic_of_not_server library.entry h _ b horigin
    have hnone : serverDetail latest = none := by
      by_contra hsome
      exact horigin (hcoherent (Option.isSome_iff_ne_none.2 hsome))
    rw [heq, Answers.full, answers_apply hslot, hnone]
    rfl

end Snapshots

/-! ## Contexts that recount what they hold -/

/-- **A context recounts a snapshot**, as a whole and field by field.  The name of the status is a
field of its own, which there is after a failure only. -/
structure Bridge.Recounts (b : Bridge Simulation) (X : Context) (d : Diagnostic)
    (name : Option String) : Prop where
  diagnostic : (X.diagnostic b).1 = .ok d
  returnCode : (X.returnCode b).1 = .ok d.status
  errorType : (X.errorType b).1 = .ok d.origin
  errorName : (X.errorName b).1 = .ok name
  errorMessage : (X.errorMessage b).1 = .ok d.message
  categoryNumber : (X.categoryNumber b).1 = .ok d.categoryNumber
  categoryText : (X.categoryText b).1 = .ok d.categoryText
  codeNumber : (X.codeNumber b).1 = .ok d.codeNumber
  structuredCode : (X.structuredCode b).1 = .ok d.structuredCode

theorem observed_status (found : Option α) :
    (observed found).status.isOk = true ∨ (observed found).status = .codeNotFound := by
  cases found with
  | some a => exact .inl rfl
  | none => exact .inr rfl

section Reading

variable {b : Bridge Simulation} {X : Context} {h : Handle} {latest : Option Report}
  (hX : b.Backs X h)

include hX

namespace Context

section Fields

variable (hm : (b.manager (b.resource (b.context X).resource).manager).closed = false)
  (symbol : Symbol)

include hm

theorem field_apply (initial : Cell) (cell : α → Cell)
    {getter : EntryPoints Simulation → Option Handle → Bool → Call Simulation α} {a : Answer α}
    (hgetter : getter library.entry (some h) true b.machine = (a, b.machine))
    (ha : a.status.isOk = true ∨ a.status = .codeNotFound) :
    (X.field symbol initial cell getter b).1 = .ok a.success? := by
  obtain ⟨out, scratch, n, halloc⟩ := Manager.allocate_of_open hm [initial]
  let b₁ := b.spend (b.resource (b.context X).resource).manager scratch n
  have halloc' : (b.context X).resource.allocate [initial] b = (.ok out, b₁) := halloc
  have hopen : (b₁.resource (b.context X).resource).closed = false := hX.opened
  have hhandle : (b₁.resource (b.context X).resource).handle = h := hX.handle
  have hanswer : (getter library.entry (some h) true b₁.machine).1 = a := congrArg Prod.fst hgetter
  have hinvoke : invokeInto out cell symbol (some h) (getter library.entry (some h) true) b₁ =
      (.ok a, _) := Prod.ext (congrArg Except.ok hanswer) rfl
  rw [field, bind_of_ok (read_apply _ _), hX.library, bind_of_ok halloc',
    Resource.withHandle_of_open hopen, hhandle, bind_of_ok hinvoke, Answer.success?]
  split
  · rfl
  · rename_i hfailed
    rw [if_pos (ha.resolve_left hfailed)]
    rfl

variable (hslot : b.machine.native.slot? h = some latest)

include hslot

theorem unsignedField_apply
    (getter : EntryPoints Simulation → Option Handle → Bool → Call Simulation (Option UInt32))
    (read : Option Report → UInt32)
    (hgetter : getter library.entry = observe fun latest => some (read latest)) :
    (X.unsignedField symbol getter b).1 = .ok (read latest) := by
  have hfield := field_apply hX hm symbol (.number 0) (fun n => .number (n.getD 0).toNat)
    (hgetter ▸ observe_apply hslot _) (observed_status _)
  rw [unsignedField, bind_of_ok (Prod.ext hfield rfl)]
  rfl

theorem signedField_apply
    (getter : EntryPoints Simulation → Option Handle → Bool → Call Simulation (Option Int32))
    (read : Option Report → Option Int32) (hgetter : getter library.entry = observe read) :
    (X.signedField symbol getter b).1 = .ok (read latest) := by
  have hfield := field_apply hX hm symbol (.number 0) (fun n => .number (n.getD 0).toInt)
    (hgetter ▸ observe_apply hslot read) (observed_status _)
  rw [signedField, bind_of_ok (Prod.ext hfield rfl), success?_observed]
  cases read latest <;> rfl

theorem textField_apply
    (getter : EntryPoints Simulation → Option Handle → Bool → Call Simulation (Option StringOut))
    (read : Option Report → Option (Option String))
    (hgetter : getter library.entry = observeText read) :
    (X.textField symbol getter b).1 = .ok ((read latest).join.map CString.blankZeros) := by
  have hfield := field_apply hX hm symbol (.ofString none) .ofString
    (hgetter ▸ observeText_apply hslot read) (observed_status (read latest))
  rw [textField, bind_of_ok (Prod.ext hfield rfl), readText_observed]
  rfl

end Fields

theorem diagnostic_apply (hslot : b.machine.native.slot? h = some latest)
    (hcoherent : Coherent latest) : (X.diagnostic b).1 = .ok (snapshot latest) := by
  let b₁ := b.note (.called .contextReturnCode (some h))
  let getter := library.entry.contextReturnCode (some h) true
  have hread : getter b.machine = (observed (some (latestStatus latest).raw), b.machine) :=
    observe_apply hslot fun latest => some (latestStatus latest).raw
  have hinvoke : invoke .contextReturnCode (some h) getter b =
      (.ok (observed (some (latestStatus latest).raw)), b₁) := by
    have happly : invoke .contextReturnCode (some h) getter b =
      (.ok (getter b.machine).1, b₁.withMachine (getter b.machine).2) := rfl
    rw [happly, hread]
    rfl
  rw [diagnostic, bind_of_ok (read_apply _ _), hX.library, Resource.withHandle_of_open hX.opened,
    hX.handle, bind_of_ok hinvoke]
  exact readDiagnostic_apply (b := b₁) hslot hcoherent

end Context

open Context in
/-- **A context recounts what it holds**, as long as it and its manager are open. -/
theorem Bridge.recounts
    (hm : (b.manager (b.resource (b.context X).resource).manager).closed = false)
    (hslot : b.machine.native.slot? h = some latest) (hcoherent : Coherent latest) :
    b.Recounts X (snapshot latest) (latest.map (·.status.name)) where
  diagnostic := diagnostic_apply hX hslot hcoherent
  returnCode := by
    have hfield := unsignedField_apply hX hm .contextReturnCode hslot (·.contextReturnCode)
      (fun latest => (latestStatus latest).raw) rfl
    rw [returnCode, map_apply, hfield]
    rfl
  errorType := by
    have hfield := unsignedField_apply hX hm .contextErrorType hslot (·.contextErrorType)
      (fun latest => (latestStatus latest).raw >>> 30) rfl
    rw [errorType, map_apply, hfield]
    rfl
  errorName := by
    have hfield := textField_apply hX hm .contextErrorName hslot (·.contextErrorName)
      (fun latest => some (latest.map (·.status.name))) rfl
    rw [errorName, hfield, Option.join_some, blankZeros_name]
  errorMessage := by
    have hfield := textField_apply hX hm .contextErrorMessage hslot (·.contextErrorMessage)
      (fun latest => some (latest.map (·.message))) rfl
    rw [errorMessage, hfield, Option.join_some, Option.map_map]
    rfl
  categoryNumber :=
    signedField_apply hX hm .contextCategoryNumber hslot (·.contextCategoryNumber)
      (fun latest => (serverDetail latest).map ServerDetail.categoryNumber) rfl
  categoryText := by
    have hfield := textField_apply hX hm .contextCategoryText hslot (·.contextCategoryText)
      (fun latest => (serverDetail latest).map fun d => some d.categoryText) rfl
    rw [categoryText, hfield, snapshot]
    cases serverDetail latest <;> rfl
  codeNumber := signedField_apply hX hm .contextCodeNumber hslot (·.contextCodeNumber)
    (fun latest => (serverDetail latest).map ServerDetail.codeNumber) rfl
  structuredCode := by
    have hfield := textField_apply hX hm .contextStructuredCode hslot (·.contextStructuredCode)
      (fun latest => (serverDetail latest).map fun d => some d.structuredCode) rfl
    rw [structuredCode, hfield, snapshot]
    cases serverDetail latest <;> rfl

end Reading

/-! ## Reading changes nothing -/

namespace Context

variable {X : Context} {b : Bridge Simulation} (hlibrary : (b.context X).library = library)

include hlibrary

theorem field_rests (symbol : Symbol) (initial : Cell) (cell : α → Cell)
    {getter : EntryPoints Simulation → Option Handle → Bool → Call Simulation α}
    (hgetter : ∀ c out m, (getter library.entry c out m).2 = m) :
    b.Rests (X.field symbol initial cell getter b).2 := by
  have hallocate (r : Resource) (cells : List Cell) :
      (r.allocate cells : Action Simulation Buffer).Ensures Rests := by
    refine .bind (.read _) fun s => .bind (.read _) fun m => ?_
    split
    · exact .fail _
    · exact .bind (.read _) fun _ => .bind (fun _ => rfl) fun _ => .bind (fun _ => rfl) fun _ =>
        .ofExcept _
  rw [field, bind_of_ok (read_apply _ _), hlibrary]
  refine Ensures.bind (hallocate _ _) (fun out => .bind (.read _) fun s => ?_) b
  split
  · exact .fail _
  · refine .bind (fun b => hgetter _ _ _) fun answer => ?_
    split
    · exact .pure _
    · split
      · exact .pure _
      · exact .fail _

theorem diagnostic_rests : b.Rests (X.diagnostic b).2 := by
  rw [diagnostic, bind_of_ok (read_apply _ _), hlibrary]
  refine Ensures.bind (.read _) (fun s => ?_) b
  split
  · exact .fail _
  · refine .bind (fun b => observe_snd _ _ _ _) fun answer => ?_
    split
    · exact readDiagnostic_ensures (fun _ _ _ => rfl) _ _
    · exact .fail _

end Context

/-- The context that a call reads. -/
def Operation.reads {σ : Type} : {α : Type} → Operation σ α → Option Context
  | _, .returnCode X | _, .errorType X | _, .errorName X | _, .errorMessage X
  | _, .categoryNumber X | _, .categoryText X | _, .codeNumber X | _, .structuredCode X
  | _, .diagnostic X => some X
  | _, _ => none

theorem Operation.mem_objects_reads {σ : Type} (op : Operation σ α) {X : Context}
    (hop : op.reads = some X) : .context X ∈ op.objects := by
  cases op <;> cases hop <;> exact .head _

/-- **Reading a context leaves the machine as it was**, whether or not the context is open. -/
theorem Operation.rests_of_reads (op : Operation Simulation α) {X : Context}
    (hop : op.reads = some X) {b : Bridge Simulation}
    (hlibrary : (b.context X).library = library) : (op.after b).machine = b.machine := by
  have hnumber {β γ : Type} {symbol : Symbol} {initial : Cell} {cell : Option β → Cell}
      {getter : EntryPoints Simulation → Option Handle → Bool → Call Simulation (Option β)}
      (hgetter : ∀ c out m, (getter library.entry c out m).2 = m) (f : Option (Option β) → γ) :
      b.Rests ((do return f (← X.field symbol initial cell getter) : Action Simulation γ) b).2 :=
    Ensures.bind_at (X.field_rests hlibrary symbol initial cell hgetter) fun _ _ => rfl
  have htext {symbol : Symbol}
      {getter : EntryPoints Simulation → Option Handle → Bool → Call Simulation (Option StringOut)}
      (hgetter : ∀ c out m, (getter library.entry c out m).2 = m) :
      b.Rests (X.textField symbol getter b).2 :=
    Ensures.bind_at (X.field_rests hlibrary symbol _ _ hgetter) fun _ _ => rfl
  cases op <;> cases hop
  case returnCode =>
    exact Ensures.bind_at (hnumber (fun c out m => observe_snd c out m _) _) fun _ _ => rfl
  case errorType =>
    exact Ensures.bind_at (hnumber (fun c out m => observe_snd c out m _) _) fun _ _ => rfl
  case errorName => exact htext fun c out m => observeText_snd c out m _
  case errorMessage => exact htext fun c out m => observeText_snd c out m _
  case categoryNumber => exact hnumber (fun c out m => observe_snd c out m _) _
  case categoryText => exact htext fun c out m => observeText_snd c out m _
  case codeNumber => exact hnumber (fun c out m => observe_snd c out m _) _
  case structuredCode => exact htext fun c out m => observeText_snd c out m _
  case diagnostic => exact Context.diagnostic_rests hlibrary

end HandleBridge
