import HandleBridge.Diagnostic
import HandleBridge.Kind

/-!
# Failure — why an operation of the bridge failed

A `Failure` is a cause; `message` is its wording.  Failures of a teardown are kept together in one
failure that has the others as members, so failures form trees.  Three observers follow the first
member of such a tree down to a leaf and ask the leaf: `category` says whether a retry can help,
`status?` which native code was answered, and `leaf` is that leaf itself.
-/

namespace HandleBridge

/-- Where a failure originated, which decides whether a retry can help. -/
inductive Category where
  | localArgument
  | clientRuntime
  | serverDiagnostic
  deriving DecidableEq, Repr, Inhabited

namespace Category

/-- A category's written name. -/
def text : Category → String
  | localArgument => "local_argument"
  | clientRuntime => "client_runtime"
  | serverDiagnostic => "server_diagnostic"

/-- The categories by their written names. -/
def table : List (String × Category) :=
  [localArgument, clientRuntime, serverDiagnostic].map fun c => (c.text, c)

/-- The JSON form: the written name. -/
def toJson (c : Category) : Json := .text c.text

/-- A category given by its written name. -/
def reader : Json.Reader Category := Json.Reader.oneOf table

/-- The category of a failed native call. -/
def ofOrigin : Origin → Category
  | .server => .serverDiagnostic
  | .client => .clientRuntime
  | .ok | .ffi => .localArgument

end Category

/-- Why an operation failed. -/
inductive Failure where
  /-- The native object was released. -/
  | alreadyClosed (kind : Kind)
  /-- The result of the job was consumed. -/
  | alreadyTaken (name : String)
  /-- The scope has ended. -/
  | managerClosed
  /-- An argument was refused. -/
  | argument (text : String)
  /-- The native library reported success without producing an object. -/
  | nullHandle (operation : String)
  /-- The native library answered with a status other than success. -/
  | native (status : Status) (message : String) (diagnostic : Option Diagnostic)
  /-- The native library could not be loaded. -/
  | libraryLoad (path : String) (reason : String)
  /-- The configuration is unusable. -/
  | config (text : String)
  /-- Releases failed during a teardown. -/
  | teardown (count : Nat) (primary : Failure) (secondary : List Failure)
  deriving Inhabited, Repr

namespace Failure

/-- A failed native call.  The message is the diagnostic's, or names the status when there is
none. -/
def ofStatus (status : Status) (diagnostic : Option Diagnostic) : Failure :=
  .native status
    ((diagnostic.bind (·.message)).getD ("native call failed with " ++ status.name)) diagnostic

/-- The failures of a teardown as one; none when nothing failed. -/
def aggregate : List Failure → Option Failure
  | [] => none
  | primary :: secondary => some (.teardown (secondary.length + 1) primary secondary)

/-- The wording of a failure. -/
def message : Failure → String
  | alreadyClosed kind => kind.text ++ " already closed"
  | alreadyTaken name => "Job<" ++ name ++ "> already taken"
  | managerClosed => "resource manager already closed"
  | argument text => "invalid argument: " ++ text
  | nullHandle operation => "native call " ++ operation ++ " returned a null handle"
  | native _ message _ => message
  | libraryLoad path reason => "failed to load native library " ++ path ++ ": " ++ reason
  | config text => "configuration error: " ++ text
  | teardown count primary _ =>
    toString count ++ " failure(s) during teardown, first: " ++ primary.message

/-! ## What a failure is, seen from its first leaf -/

/-- The failure reached by following the first member at every level. -/
def leaf : Failure → Failure
  | teardown _ primary _ => primary.leaf
  | failure => failure

/-- Whether a retry can help. -/
def category : Failure → Category
  | native status _ _ => .ofOrigin status.origin
  | libraryLoad _ _ | nullHandle _ => .clientRuntime
  | teardown _ primary _ => primary.category
  | _ => .localArgument

/-- The status that the native library answered with, if that is the cause. -/
def status? : Failure → Option Status
  | native status _ _ => some status
  | teardown _ primary _ => primary.status?
  | _ => none

/-- Did a bounded operation hit its deadline? -/
def isTimeout : Failure → Bool
  | native status _ _ => status = .timeout
  | _ => false

/-- The context's snapshot, if the failure carries one. -/
def diagnostic? : Failure → Option Diagnostic
  | native _ _ diagnostic => diagnostic
  | _ => none

/-! ## What a failure report shows -/

/-- The name of the cause. -/
def variantName : Failure → String
  | alreadyClosed _ => "AlreadyClosed"
  | alreadyTaken _ => "AlreadyTaken"
  | managerClosed => "ManagerClosed"
  | argument _ => "Argument"
  | nullHandle _ => "NullHandle"
  | native _ _ _ => "Native"
  | libraryLoad _ _ => "LibraryLoad"
  | config _ => "Config"
  | teardown _ _ _ => "Teardown"

/-- The code a failure report is filed under. -/
def code : Failure → String
  | alreadyClosed _ => "bridge::already_closed"
  | alreadyTaken _ => "bridge::already_taken"
  | managerClosed => "bridge::manager_closed"
  | argument _ => "bridge::argument"
  | nullHandle _ => "bridge::null_handle"
  | native _ _ _ => "bridge::native"
  | libraryLoad _ _ => "bridge::library_load"
  | config _ => "bridge::config"
  | teardown _ _ _ => "bridge::teardown"

/-- Advice to whoever reads the report. -/
def help : Failure → Option String
  | alreadyClosed _ =>
    some "The native object was released. Create a new one instead of reusing it."
  | alreadyTaken _ =>
    some "A job result can be consumed once. Keep the value returned by the first take."
  | managerClosed =>
    some "Allocations and registrations are only valid while the manager scope is open."
  | nullHandle _ => some "The native library reported success without producing an object."
  | libraryLoad _ _ =>
    some "Check the library path and that every tsurugi_ffi_* symbol is exported."
  | teardown _ _ _ =>
    some "Every resource was still released. Related errors list the remaining failures."
  | argument _ | native _ _ _ | config _ => none

/-- The wordings of the other members of a teardown; none for a failure that is no teardown. -/
def related : Failure → Option (List String)
  | teardown _ _ secondary => some (secondary.map message)
  | _ => none

end Failure

end HandleBridge
