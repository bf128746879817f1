import HandleBridge.Status

/-!
# Diagnostic — what a context reported about the latest failure

A diagnostic is a snapshot of a context: the status, where it originated, its name, the message, and
four fields that only a server error fills.  Its JSON form is an object with all eight members in
declared order.
-/

namespace HandleBridge

/-- The snapshot of a context. -/
structure Diagnostic where
  status : Status
  origin : Origin
  name : Option String
  message : Option String
  categoryNumber : Option Int32
  categoryText : Option String
  codeNumber : Option Int32
  structuredCode : Option String
  deriving DecidableEq, Repr

namespace Diagnostic

/-- The snapshot that knows the status and nothing else. -/
def ofStatus (s : Status) : Diagnostic where
  status := s
  origin := s.origin
  name := some s.name
  message := none
  categoryNumber := none
  categoryText := none
  codeNumber := none
  structuredCode := none

/-- Did the failure originate in the server? -/
def isServerError (d : Diagnostic) : Bool := d.origin = .server

/-! ## JSON -/

/-- The members of the JSON form, in declared order. -/
def memberNames : List String :=
  ["rc", "rc_type", "name", "message", "server_category_number", "server_category_str",
   "server_code_number", "structured_code"]

/-- A value that may be missing, as JSON. -/
def nullableJson {α : Type} (f : α → Json) : Option α → Json
  | some a => f a
  | none => .null

/-- A number of 32 bits, as JSON. -/
def numberJson (n : Int32) : Json := .integer n.toInt

/-- The JSON form. -/
def toJson (d : Diagnostic) : Json :=
  .record (memberNames.zip
    [d.status.toJson, d.origin.toJson, nullableJson .text d.name, nullableJson .text d.message,
     nullableJson numberJson d.categoryNumber, nullableJson .text d.categoryText,
     nullableJson numberJson d.codeNumber, nullableJson .text d.structuredCode])

/-- A diagnostic given by its members; those that may be missing may be left out of an object. -/
def reader : Json.Reader Diagnostic := fun j => do
  match ← Json.Slots.of? false memberNames j with
  | [rc, rcType, name, message, categoryNumber, categoryText, codeNumber, structuredCode] =>
    return {
      status := ← Json.Slots.required Status.reader rc
      origin := ← Json.Slots.required Origin.reader rcType
      name := ← Json.Slots.optional Json.Reader.text name
      message := ← Json.Slots.optional Json.Reader.text message
      categoryNumber := ← Json.Slots.optional Json.Reader.signed32 categoryNumber
      categoryText := ← Json.Slots.optional Json.Reader.text categoryText
      codeNumber := ← Json.Slots.optional Json.Reader.signed32 codeNumber
      structuredCode := ← Json.Slots.optional Json.Reader.text structuredCode }
  | _ => none

end Diagnostic

end HandleBridge
