import HandleBridge.Json.Record

/-!
# Identity — the identifier of a manager scope

An identifier is a number of 128 bits.  It is written as 32 digits in five groups with hyphens
between them.  It may be read from the digits alone, from the hyphenated form, and from the
hyphenated form in braces or after `urn:uuid:`; letters of either case are accepted.
-/

namespace HandleBridge

/-- The identifier of a manager scope. -/
structure Identity where
  value : Nat
  value_lt : value < Nat.pow 16 32
  deriving DecidableEq, Repr

namespace Identity

/-- The number of digits in each group. -/
def groups : List Nat := [8, 4, 4, 4, 12]

/-- Digits cut into groups, with hyphens between them. -/
def hyphenate : List Nat → List Char → List Char
  | [], _ => []
  | [_], digits => digits
  | n :: rest, digits => digits.take n ++ '-' :: hyphenate rest (digits.drop n)

/-- The digits of a hyphenated text, if the hyphens stand between the groups. -/
def unhyphenate? : List Nat → List Char → Option (List Char)
  | [], [] => some []
  | [], _ :: _ => none
  | [n], s => if s.length = n then some s else none
  | n :: rest, s =>
    match s.drop n with
    | '-' :: tail => (s.take n ++ ·) <$> unhyphenate? rest tail
    | _ => none

/-- The written form. -/
def text (id : Identity) : String :=
  String.ofList (hyphenate groups (Hex.fixed 32 id.value))

/-- The identifier with the given 32 digits. -/
def ofDigits? (digits : List Char) : Option Identity := do
  if digits.length ≠ 32 then none
  let value ← Hex.value? digits
  if h : value < Nat.pow 16 32 then some ⟨value, h⟩ else none

/-- What an identifier that is written as a name begins with. -/
def scheme : List Char := "urn:uuid:".toList

/-- The text inside braces, or after the scheme of a name in letters of either case. -/
def unwrap (s : List Char) : List Char :=
  match s with
  | '{' :: rest => if s.length = 38 && s.getLast? = some '}' then rest.dropLast else s
  | _ =>
    if (s.take scheme.length).map Char.toLower = scheme then s.drop scheme.length else s

/-- The identifier a text writes. -/
def ofText? (text : String) : Option Identity :=
  let s := text.toList
  if s.length = 32 then ofDigits? s else (unhyphenate? groups (unwrap s)).bind ofDigits?

/-- The JSON form: the written form. -/
def toJson (id : Identity) : Json := .text id.text

/-- An identifier given by its written form. -/
def reader : Json.Reader Identity := fun j => (Json.Reader.text j).bind ofText?

end Identity

end HandleBridge
