import HandleBridge.Json.Value
import HandleBridge.Text.Quoted

/-!
# Kind — the category of native object behind a handle

The bridge knows four kinds of native object; wrappers built on top of it name their own.  A custom
kind may bear the text of a built-in one and is told apart by its JSON form only.
-/

namespace HandleBridge

/-- The category of a native object. -/
inductive Kind where
  | context
  | job
  | cancelJob
  | value
  | custom (name : String)
  deriving DecidableEq, Repr, Inhabited

namespace Kind

/-- The kind as it is written. -/
def text : Kind → String
  | context => "Context"
  | job => "Job"
  | cancelJob => "CancelJob"
  | value => "Value"
  | custom name => name

/-- The kind as it is shown to people who debug. -/
def debugText : Kind → String
  | custom name => "Custom(" ++ Quoted.quote name ++ ")"
  | kind => kind.text

/-- The JSON form: the text, or an object for a custom kind. -/
def toJson : Kind → Json
  | custom name => .record [("Custom", .text name)]
  | kind => .text kind.text

end Kind

end HandleBridge
