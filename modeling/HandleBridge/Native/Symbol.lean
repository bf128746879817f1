/-!
# Native/Symbol — the names of the native library's entry points

The bridge uses twenty-five entry points.  A shared library exports each under a common prefix and
the entry point's own name.
-/

namespace HandleBridge

/-- An entry point of the native library. -/
inductive Symbol where
  | contextCreate
  | contextReturnCode
  | contextErrorName
  | contextErrorType
  | contextErrorMessage
  | contextCategoryNumber
  | contextCategoryText
  | contextCodeNumber
  | contextStructuredCode
  | contextDispose
  | cancelJobWait
  | cancelJobIsDone
  | cancelJobDispose
  | jobName
  | jobWait
  | jobIsDone
  | jobTake
  | jobTakeFor
  | jobTakeIfReady
  | jobCancel
  | jobCancelFor
  | jobCancelAsync
  | jobClose
  | jobDispose
  | loggerInit
  deriving DecidableEq, Repr, Inhabited

namespace Symbol

/-- Every entry point, in the order in which a loaded library must resolve them. -/
def all : List Symbol :=
  [contextCreate, contextReturnCode, contextErrorName, contextErrorType, contextErrorMessage,
   contextCategoryNumber, contextCategoryText, contextCodeNumber, contextStructuredCode,
   contextDispose, cancelJobWait, cancelJobIsDone, cancelJobDispose, jobName, jobWait, jobIsDone,
   jobTake, jobTakeFor, jobTakeIfReady, jobCancel, jobCancelFor, jobCancelAsync, jobClose,
   jobDispose, loggerInit]

/-- An entry point's own name. -/
def shortName : Symbol → String
  | contextCreate => "context_create"
  | contextReturnCode => "context_get_return_code"
  | contextErrorName => "context_get_error_name"
  | contextErrorType => "context_get_error_type"
  | contextErrorMessage => "context_get_error_message"
  | contextCategoryNumber => "context_get_server_error_category_number"
  | contextCategoryText => "context_get_server_error_category_str"
  | contextCodeNumber => "context_get_server_error_code_number"
  | contextStructuredCode => "context_get_server_error_structured_code"
  | contextDispose => "context_dispose"
  | cancelJobWait => "cancel_job_wait"
  | cancelJobIsDone => "cancel_job_is_done"
  | cancelJobDispose => "cancel_job_dispose"
  | jobName => "job_get_name"
  | jobWait => "job_wait"
  | jobIsDone => "job_is_done"
  | jobTake => "job_take"
  | jobTakeFor => "job_take_for"
  | jobTakeIfReady => "job_take_if_ready"
  | jobCancel => "job_cancel"
  | jobCancelFor => "job_cancel_for"
  | jobCancelAsync => "job_cancel_async"
  | jobClose => "job_close"
  | jobDispose => "job_dispose"
  | loggerInit => "env_logger_init"

/-- The name under which a shared library exports the entry point. -/
def name (s : Symbol) : String := "tsurugi_ffi_" ++ s.shortName

/-- The entry point with a given own name. -/
def ofShortName? (name : String) : Option Symbol := all.find? (·.shortName = name)

end Symbol

end HandleBridge
