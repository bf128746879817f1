import HandleBridge.Text.Blank
import HandleBridge.Text.Utf8

/-!
# Environment — the variables a process was started with

A variable holds bytes.  It counts as set only when the bytes spell a text that is not blank:
`Environment.value?` answers that text, untrimmed.
-/

namespace HandleBridge

/-- Variables and the bytes they hold. -/
abbrev Environment := List (String × List UInt8)

namespace Environment

/-! ## The variables the bridge reads -/

/-- The location of the native library, consulted when no path is configured. -/
def libraryPath : String := "TSURUGI_FFI_LIBRARY_PATH"

/-- The filter expression for the native library's own logger. -/
def log : String := "TSURUGI_FFI_LOG"

/-- The output file of the native library's own logger. -/
def logFile : String := "TSURUGI_FFI_LOG_FILE"

/-- Selects JSON output for the trace. -/
def traceJson : String := "TSURUGI_BRIDGE_TRACE_JSON"

/-- Selects the least level of the trace. -/
def traceLevel : String := "RUST_LOG"

/-- The text a variable holds, if its bytes spell one. -/
def text? (env : Environment) (name : String) : Option String := do
  String.ofList <$> Utf8.decode? (← env.lookup name)

/-- The text a variable is set to; a blank one does not count. -/
def value? (env : Environment) (name : String) : Option String :=
  (env.text? name).filter (!Blank.isBlank ·)

end Environment

end HandleBridge
