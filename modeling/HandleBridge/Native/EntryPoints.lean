import HandleBridge.Handle
import HandleBridge.Native.Symbol
import HandleBridge.Status

/-!
# Native/EntryPoints — what a native library does when it is called

A native library runs on a `Machine`: a clock, which only it and a sleeping caller move, and memory of
its own.  A table of `EntryPoints` gives for each entry point the status that it answers with and what
it writes through its out-parameters; nothing else is known about a library, so every statement about
the bridge can be made for all tables at once.

A caller may pass a null context, a null target, and null out-parameters.  An entry point may leave
an out-parameter alone, whatever its status, and the out-parameter then keeps what it held; what was
written to one that holds a string is an address, or null.  Out-parameters that hold handles are
always cleared beforehand, so "nothing written" and "null written" are the same thing for them.
-/

namespace HandleBridge

/-- A clock, in nanoseconds, and the native library's own memory. -/
structure Machine (σ : Type) where
  clock : Nat
  native : σ

/-- The status of a call and what it wrote.  Where it may write nothing, `written` is an option. -/
structure Answer (α : Type) where
  status : Status
  written : α

/-- A call of an entry point whose arguments have been passed. -/
abbrev Call (σ α : Type) := Machine σ → Answer α × Machine σ

/-- An address of a string: the bytes from there onward, or null. -/
abbrev StringOut := Option (List UInt8)

/-- The entry points of a native library.  A `Bool` argument says whether the caller passes somewhere
to write to. -/
structure EntryPoints (σ : Type) where
  contextCreate : Bool → Call σ (Option Handle)
  contextReturnCode : Option Handle → Bool → Call σ (Option UInt32)
  contextErrorName : Option Handle → Bool → Call σ (Option StringOut)
  contextErrorType : Option Handle → Bool → Call σ (Option UInt32)
  contextErrorMessage : Option Handle → Bool → Call σ (Option StringOut)
  contextCategoryNumber : Option Handle → Bool → Call σ (Option Int32)
  contextCategoryText : Option Handle → Bool → Call σ (Option StringOut)
  contextCodeNumber : Option Handle → Bool → Call σ (Option Int32)
  contextStructuredCode : Option Handle → Bool → Call σ (Option StringOut)
  contextDispose : Option Handle → Machine σ → Machine σ
  cancelJobWait : Option Handle → Option Handle → Nat → Bool → Call σ (Option Bool)
  cancelJobIsDone : Option Handle → Option Handle → Bool → Call σ (Option Bool)
  cancelJobDispose : Option Handle → Machine σ → Machine σ
  jobName : Option Handle → Option Handle → Bool → Call σ (Option StringOut)
  jobWait : Option Handle → Option Handle → Nat → Bool → Call σ (Option Bool)
  jobIsDone : Option Handle → Option Handle → Bool → Call σ (Option Bool)
  jobTake : Option Handle → Option Handle → Bool → Call σ (Option Handle)
  jobTakeFor : Option Handle → Option Handle → Nat → Bool → Call σ (Option Handle)
  jobTakeIfReady :
    Option Handle → Option Handle → Bool → Bool → Call σ (Option Bool × Option Handle)
  jobCancel : Option Handle → Option Handle → Bool → Call σ (Option Bool)
  jobCancelFor : Option Handle → Option Handle → Nat → Bool → Call σ (Option Bool)
  jobCancelAsync : Option Handle → Option Handle → Bool → Call σ (Option Handle)
  jobClose : Option Handle → Option Handle → Call σ Unit
  jobDispose : Option Handle → Machine σ → Machine σ
  loggerInit : StringOut → StringOut → Call σ Unit

namespace EntryPoints

/-- A call that succeeds and writes nothing. -/
def silent {σ α : Type} (nothing : α) : Call σ α := fun machine => (⟨.ok, nothing⟩, machine)

/-- The library whose every entry point succeeds, writes nothing and does nothing. -/
def idle (σ : Type) : EntryPoints σ where
  contextCreate _ := silent none
  contextReturnCode _ _ := silent none
  contextErrorName _ _ := silent none
  contextErrorType _ _ := silent none
  contextErrorMessage _ _ := silent none
  contextCategoryNumber _ _ := silent none
  contextCategoryText _ _ := silent none
  contextCodeNumber _ _ := silent none
  contextStructuredCode _ _ := silent none
  contextDispose _ := id
  cancelJobWait _ _ _ _ := silent none
  cancelJobIsDone _ _ _ := silent none
  cancelJobDispose _ := id
  jobName _ _ _ := silent none
  jobWait _ _ _ _ := silent none
  jobIsDone _ _ _ := silent none
  jobTake _ _ _ := silent none
  jobTakeFor _ _ _ _ := silent none
  jobTakeIfReady _ _ _ _ := silent (none, none)
  jobCancel _ _ _ := silent none
  jobCancelFor _ _ _ _ := silent none
  jobCancelAsync _ _ _ := silent none
  jobClose _ _ := silent ()
  jobDispose _ := id
  loggerInit _ _ := silent ()

instance {σ : Type} : Inhabited (EntryPoints σ) := ⟨idle σ⟩

end EntryPoints

end HandleBridge
