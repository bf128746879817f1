import HandleBridge.Json.Value

/-!
# Json/Record — JSON values read as typed data

A `Reader` accepts a JSON value as a value of a type, or refuses it.  Numbers must be plain integers
within bounds, a missing value is an explicit `null`, and a name out of a fixed list may also be
written as an object with that one member, set to `null`.

A record is written as an object or as an array.  `Slots.ofObject?` sorts the members of an object
into the declared places: unknown members are skipped, a declared one that is repeated is refused, and
so is any member name that spells no text.  `Slots.ofArray?` takes the places in declared order and
refuses an array that is too long.
-/

namespace HandleBridge.Json

/-- A way to accept JSON values as values of a type. -/
abbrev Reader (α : Type) := Json → Option α

namespace Reader

/-- An integer from zero up to a bound, the bound excluded. -/
def natural (bound : Nat) : Reader Nat
  | .integer n => if 0 ≤ n ∧ n < bound then some n.toNat else none
  | _ => none

/-- An unsigned integer of 32 bits. -/
def unsigned32 : Reader UInt32 := fun j => UInt32.ofNat <$> natural UInt32.size j

/-- An unsigned integer of 64 bits. -/
def unsigned64 : Reader UInt64 := fun j => UInt64.ofNat <$> natural UInt64.size j

/-- A signed integer of 32 bits. -/
def signed32 : Reader Int32
  | .integer n => if Int32.minValue.toInt ≤ n ∧ n ≤ Int32.maxValue.toInt then some (Int32.ofInt n) else none
  | _ => none

/-- A text. -/
def text : Reader String
  | .string s => s
  | _ => none

/-- A value or an explicit `null`. -/
def nullable {α : Type} (reader : Reader α) : Reader (Option α)
  | .null => some none
  | j => some <$> reader j

/-- One of the names a table lists, as a string or as an object that sets this one member to
`null`. -/
def oneOf {α : Type} (table : List (String × α)) : Reader α
  | .string (some name) => table.lookup name
  | .object [(some name, .null)] => table.lookup name
  | _ => none

/-- The members of an object, all read by one reader. -/
def members {α : Type} (reader : Reader α) : Reader (List (String × α))
  | .object members => members.mapM fun m => do return ((← m.1), (← reader m.2))
  | _ => none

end Reader

/-- The values found for the declared members of a record, in declared order. -/
abbrev Slots := List (Option Json)

namespace Slots

/-- The value of a member that must not be repeated; empty when there is none. -/
def find? (members : List (String × Json)) (name : String) : Option (Option Json) :=
  match members.filter (·.1 = name) with
  | [] => some none
  | [m] => some (some m.2)
  | _ => none

/-- The places of an object's members. -/
def ofObject? (names : List String) (members : List (Option String × Json)) : Option Slots := do
  let members ← members.mapM fun m => m.1.map fun name => (name, m.2)
  names.mapM (find? members)

/-- The places of an array's elements.  The array may be short only if `short` allows it. -/
def ofArray? (short : Bool) (names : List String) (elements : List Json) : Option Slots :=
  if names.length < elements.length then none
  else if elements.length < names.length && !short then none
  else some (elements.map some ++ List.replicate (names.length - elements.length) none)

/-- The places of a record, written either way. -/
def of? (short : Bool) (names : List String) : Json → Option Slots
  | .object members => ofObject? names members
  | .array elements => ofArray? short names elements
  | _ => none

/-- A place that must be filled. -/
def required {α : Type} (reader : Reader α) : Option Json → Option α
  | some j => reader j
  | none => none

/-- A place that may be left out, which counts as `null`. -/
def optional {α : Type} (reader : Reader α) : Option Json → Option (Option α)
  | some j => reader.nullable j
  | none => some none

/-- A place that takes a default when left out. -/
def withDefault {α : Type} (reader : Reader α) (default : α) : Option Json → Option α
  | some j => reader j
  | none => some default

end Slots

end HandleBridge.Json
