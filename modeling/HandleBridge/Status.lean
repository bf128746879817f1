import HandleBridge.Json.Record

/-!
# Status — the code every native call answers with

A status is a word of 32 bits.  Its top two bits say where it originated; local errors carry a group
in the next six bits and a detail in the lowest ones, client errors a kind in bits 16 to 29.  Some
statuses have a symbolic name; `name` writes the others by their digits.
-/

namespace HandleBridge

/-- A code answered by a native call. -/
structure Status where
  raw : UInt32
  deriving DecidableEq, Repr, Inhabited

/-- Where a status originated. -/
inductive Origin where
  | ok
  | ffi
  | client
  | server
  deriving DecidableEq, Repr, Inhabited

namespace Origin

/-- The origin given by the lowest two bits. -/
def ofRaw (raw : UInt32) : Origin :=
  match raw.toNat % 4 with
  | 0 => .ok
  | 1 => .ffi
  | 2 => .client
  | _ => .server

/-- An origin's written name. -/
def text : Origin → String
  | ok => "OK"
  | ffi => "FFI_ERROR"
  | client => "CORE_CLIENT_ERROR"
  | server => "CORE_SERVER_ERROR"

/-- The origins by their written names. -/
def table : List (String × Origin) := [ok, ffi, client, server].map fun o => (o.text, o)

/-- The JSON form: the written name. -/
def toJson (o : Origin) : Json := .text o.text

/-- An origin given by its written name. -/
def reader : Json.Reader Origin := Json.Reader.oneOf table

end Origin

namespace Status

/-- Success. -/
def ok : Status := ⟨0⟩

/-! ## Local errors -/

/-- The first local error. -/
def ffiBase : Status := ⟨0x40000000⟩

/-- The group of argument errors. -/
def argGroup : Status := ffiBase

/-- The argument at a position was refused.  Only the lowest three bits of the position count. -/
def argError (position : UInt32) : Status := ⟨argGroup.raw ||| (position &&& 7)⟩

/-- The group of job errors. -/
def jobGroup : Status := ⟨0x41000000⟩

/-- The job was closed by its own entry point. -/
def jobAlreadyClosed : Status := ⟨0x41000001⟩

/-- The group of other local errors. -/
def ffiError : Status := ⟨0x42000000⟩

/-- A text held a zero character. -/
def nulError : Status := ⟨0x42000001⟩

/-- The context has no such diagnostic field. -/
def codeNotFound : Status := ⟨0x42000002⟩

/-! ## Client and server errors -/

/-- The group of client errors. -/
def clientGroup : Status := ⟨0x80000000⟩

/-- The client refused or gave up the request. -/
def clientError : Status := ⟨0x80010000⟩

/-- The deadline passed. -/
def timeout : Status := ⟨0x80020000⟩

/-- Input or output failed. -/
def ioError : Status := ⟨0x80030000⟩

/-- The server refused the request. -/
def serverError : Status := ⟨0xC0000000⟩

/-! ## Names -/

/-- The statuses with a symbolic name. -/
def named : List (Status × String) :=
  [(ok, "OK"),
   (argError 0, "FFI_ARG0_ERROR"), (argError 1, "FFI_ARG1_ERROR"),
   (argError 2, "FFI_ARG2_ERROR"), (argError 3, "FFI_ARG3_ERROR"),
   (argError 4, "FFI_ARG4_ERROR"), (argError 5, "FFI_ARG5_ERROR"),
   (argError 6, "FFI_ARG6_ERROR"), (argError 7, "FFI_ARG7_ERROR"),
   (jobAlreadyClosed, "FFI_JOB_ALREADY_CLOSED"),
   (nulError, "FFI_NUL_ERROR"),
   (codeNotFound, "FFI_DIAGNOSTIC_CODE_NOT_FOUND"),
   (clientError, "CORE_CLIENT_CLIENT_ERROR"),
   (timeout, "CORE_CLIENT_TIMEOUT_ERROR"),
   (ioError, "CORE_CLIENT_IO_ERROR"),
   (serverError, "CORE_SERVER_ERROR")]

/-- The eight digits of a status. -/
def digits (s : Status) : String := String.ofList (Hex.fixed 8 s.raw.toNat)

/-- The symbolic name, or the eight digits for a status that has none. -/
def name (s : Status) : String :=
  match named.lookup s with
  | some name => name
  | none => "Rc" ++ s.digits

/-- A status is named by the table, or by its digits if the table leaves it out. -/
theorem name_cases (s : Status) :
    (s, s.name) ∈ named ∨ s ∉ named.map Prod.fst ∧ s.name = "Rc" ++ s.digits := by
  rw [name]
  cases hname : named.lookup s with
  | some name =>
    obtain ⟨before, after, hnamed, -⟩ := List.lookup_eq_some_iff.1 hname
    exact .inl (hnamed ▸ List.mem_append_right _ (.head _))
  | none =>
    refine .inr ⟨fun hmem => ?_, rfl⟩
    obtain ⟨e, he, rfl⟩ := List.mem_map.1 hmem
    simpa using List.lookup_eq_none_iff.1 hname e he

/-- The status with a given name. -/
def ofName? (name : String) : Option Status :=
  match named.find? (·.2 = name) with
  | some (s, _) => some s
  | none =>
    match name.toList with
    | 'R' :: 'c' :: digits =>
      if digits.length = 8 then (Hex.value? digits).map fun n => ⟨UInt32.ofNat n⟩ else none
    | _ => none

/-- Does the status say success? -/
def isOk (s : Status) : Bool := s.raw = 0

/-- Where the status originated: its top two bits. -/
def origin (s : Status) : Origin := Origin.ofRaw (s.raw >>> 30)

/-- Name and digits, for people who debug. -/
def debugText (s : Status) : String := "ReturnCode(" ++ s.name ++ ", 0x" ++ s.digits ++ ")"

/-- The JSON form: the number. -/
def toJson (s : Status) : Json := .integer s.raw.toNat

/-- A status given by its number. -/
def reader : Json.Reader Status := fun j => Status.mk <$> Json.Reader.unsigned32 j

end Status

end HandleBridge
