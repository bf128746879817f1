import HandleBridge.Duration
import HandleBridge.Json.Record

/-!
# Teardown — what ending a manager scope released

Counts of the releases of one teardown: all of them, the failed ones, and all of them by the text of
their kind.
-/

namespace HandleBridge

/-- The outcome of a teardown. -/
structure Teardown where
  /-- Resources released, failed releases included. -/
  disposed : Nat
  /-- Releases that failed. -/
  errors : Nat
  /-- Bytes of the allocation region handed back. -/
  bytes : Nat
  /-- Time spent, in whole microseconds. -/
  micros : UInt64
  /-- Resources released, by the text of their kind. -/
  byKind : List (String × Nat)
  deriving DecidableEq, Repr

namespace Teardown

/-- Nothing was released. -/
def empty : Teardown := ⟨0, 0, 0, 0, []⟩

instance : Inhabited Teardown := ⟨empty⟩

/-- One more under a name. -/
def increment (name : String) : List (String × Nat) → List (String × Nat)
  | [] => [(name, 1)]
  | (other, n) :: rest =>
    if other = name then (other, n + 1) :: rest else (other, n) :: increment name rest

/-- One more release. -/
def record (t : Teardown) (kind : String) (failed : Bool) : Teardown :=
  { t with
    disposed := t.disposed + 1
    errors := if failed then t.errors + 1 else t.errors
    byKind := increment kind t.byKind }

/-! ## JSON -/

/-- The members of the JSON form, in declared order. -/
def memberNames : List String :=
  ["resources_disposed", "errors_encountered", "bytes_released", "duration_micros", "by_kind"]

/-- The members of an object as a map: a repeated name keeps its place and takes the last value. -/
def mapOf (members : List (String × Nat)) : List (String × Nat) :=
  members.foldl (fun map m => put m.1 m.2 map) []
where
  /-- The map with one entry set. -/
  put (name : String) (n : Nat) : List (String × Nat) → List (String × Nat)
    | [] => [(name, n)]
    | (other, k) :: rest =>
      if other = name then (other, n) :: rest else (other, k) :: put name n rest

/-- The JSON form. -/
def toJson (t : Teardown) : Json :=
  .record (memberNames.zip
    [.integer t.disposed, .integer t.errors, .integer t.bytes, .integer t.micros.toNat,
     .record (t.byKind.map fun e => (e.1, .integer e.2))])

/-- An outcome given by its members, all of them required. -/
def reader : Json.Reader Teardown := fun j => do
  let count := Json.Reader.natural UInt64.size
  match ← Json.Slots.of? false memberNames j with
  | [disposed, errors, bytes, micros, byKind] =>
    return {
      disposed := ← Json.Slots.required count disposed
      errors := ← Json.Slots.required count errors
      bytes := ← Json.Slots.required count bytes
      micros := ← Json.Slots.required Json.Reader.unsigned64 micros
      byKind := mapOf (← Json.Slots.required (Json.Reader.members count) byKind) }
  | _ => none

end Teardown

end HandleBridge
