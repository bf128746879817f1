import HandleBridge.NativeCall

/-!
# Context — wrapped diagnostic contexts

A context is created by the native library, or adopted, and read field by field.  A field that the
library does not know is absent, which is no failure; the numbers of the status then have a default.
-/

namespace HandleBridge.Context

variable {σ α : Type}

/-! ## Making one -/

/-- Puts a context of a library under management. -/
def adopt (library : Library σ) (m : Manager) (h : Handle) : Action σ Context := do
  let r ← Resource.adopt m h .context
    (.native (some .contextDispose) (fun h => library.entry.contextDispose (some h)) none)
  let c : Context := ⟨← .read (·.contexts.size)⟩
  .update (·.addContext ⟨r, library⟩)
  return c

/-- Has a library create a context. -/
def create (library : Library σ) (m : Manager) : Action σ Context := do
  let out ← m.allocate [.ofHandle none]
  let answer ← invokeInto out .ofHandle .contextCreate none (library.entry.contextCreate true)
  if answer.status.isOk then
    match answer.written with
    | some h => adopt library m h
    | none => .fail (.nullHandle Symbol.contextCreate.name)
  else .fail (.ofStatus answer.status none)

/-! ## Reading it -/

/-- The resource of a context. -/
def resource (c : Context) : Action σ Resource := .read fun b => (b.context c).resource

/-- A field, which may be absent. -/
def field (c : Context) (symbol : Symbol) (initial : Cell) (cell : α → Cell)
    (getter : EntryPoints σ → Option Handle → Bool → Call σ α) : Action σ (Option α) := do
  let s ← .read (·.context c)
  let out ← s.resource.allocate [initial]
  s.resource.withHandle fun h => do
    let answer ← invokeInto out cell symbol (some h) (getter s.library.entry (some h) true)
    if answer.status.isOk then return some answer.written
    else if answer.status = .codeNotFound then return none
    else .fail (.ofStatus answer.status none)

/-- A field with an unsigned number. -/
def unsignedField (c : Context) (symbol : Symbol)
    (getter : EntryPoints σ → Option Handle → Bool → Call σ (Option UInt32)) :
    Action σ UInt32 := do
  let n ← c.field symbol (.number 0) (fun n => .number (n.getD 0).toNat) getter
  return n.join.getD 0

/-- A field with a signed number. -/
def signedField (c : Context) (symbol : Symbol)
    (getter : EntryPoints σ → Option Handle → Bool → Call σ (Option Int32)) :
    Action σ (Option Int32) := do
  let n ← c.field symbol (.number 0) (fun n => .number (n.getD 0).toInt) getter
  return n.map (·.getD 0)

/-- A field with a text. -/
def textField (c : Context) (symbol : Symbol)
    (getter : EntryPoints σ → Option Handle → Bool → Call σ (Option StringOut)) :
    Action σ (Option String) := do
  let s ← c.field symbol (.ofString none) .ofString getter
  return readText s.join.join

/-- The status of the latest call. -/
def returnCode (c : Context) : Action σ Status :=
  Status.mk <$> c.unsignedField .contextReturnCode (·.contextReturnCode)

/-- Where that status originated. -/
def errorType (c : Context) : Action σ Origin :=
  Origin.ofRaw <$> c.unsignedField .contextErrorType (·.contextErrorType)

/-- The name of that status. -/
def errorName (c : Context) : Action σ (Option String) :=
  c.textField .contextErrorName (·.contextErrorName)

/-- The message of the latest call. -/
def errorMessage (c : Context) : Action σ (Option String) :=
  c.textField .contextErrorMessage (·.contextErrorMessage)

/-- The number of the server's category. -/
def categoryNumber (c : Context) : Action σ (Option Int32) :=
  c.signedField .contextCategoryNumber (·.contextCategoryNumber)

/-- The text of the server's category. -/
def categoryText (c : Context) : Action σ (Option String) :=
  c.textField .contextCategoryText (·.contextCategoryText)

/-- The number of the server's code. -/
def codeNumber (c : Context) : Action σ (Option Int32) :=
  c.signedField .contextCodeNumber (·.contextCodeNumber)

/-- The text of the server's code. -/
def structuredCode (c : Context) : Action σ (Option String) :=
  c.textField .contextStructuredCode (·.contextStructuredCode)

/-- The whole snapshot.  It needs no scratch memory. -/
def diagnostic (c : Context) : Action σ Diagnostic := do
  let s ← .read (·.context c)
  s.resource.withHandle fun h => do
    let answer ← invoke .contextReturnCode (some h)
      (s.library.entry.contextReturnCode (some h) true)
    if answer.status.isOk then
      readDiagnostic s.library.entry h ⟨answer.written.getD 0⟩
    else .fail (.ofStatus answer.status none)

/-- Closes a context. -/
def close (c : Context) : Action σ Unit := do (← c.resource).close

/-- Ends the wrapper of a context. -/
def drop (c : Context) : Action σ Unit := do (← c.resource).drop

end HandleBridge.Context
