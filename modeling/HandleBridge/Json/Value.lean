import HandleBridge.Json.Token

/-!
# Json/Value — JSON values, read and written

A `Json` value keeps what a reader of typed data can ask for: the members of an object in order and
with repetitions, integers of any size, and for each string and each member name whether it spells a
text at all.  `Json.read?` accepts exactly one value with nothing but blanks around it, nested to any
depth.  `Json.write` is the compact form: no blanks, members in order, and in strings only what must
be escaped.
-/

namespace HandleBridge

/-- A JSON value. -/
inductive Json where
  | null
  | bool (value : Bool)
  | integer (value : Int)
  | real (spelling : List Char)
  | string (text : Option String)
  | array (elements : List Json)
  | object (members : List (Option String × Json))
  deriving Inhabited

namespace Json

/-- A string that spells a text. -/
def text (s : String) : Json := .string (some s)

/-- An object with the given member names. -/
def record (members : List (String × Json)) : Json :=
  .object (members.map fun m => (some m.1, m.2))

/-! ## Reading -/

mutual

/-- The value at the start of the words. -/
def parseValue : Nat → List Token → Option (Json × List Token)
  | 0, _ => none
  | _ + 1, [] => none
  | fuel + 1, token :: rest =>
    match token with
    | .null => some (.null, rest)
    | .bool b => some (.bool b, rest)
    | .integer n => some (.integer n, rest)
    | .real spelling => some (.real spelling, rest)
    | .string s => some (.string s, rest)
    | .leftBracket =>
      match rest with
      | .rightBracket :: rest => some (.array [], rest)
      | _ => (parseElements fuel rest).map fun r => (.array r.1, r.2)
    | .leftBrace =>
      match rest with
      | .rightBrace :: rest => some (.object [], rest)
      | _ => (parseMembers fuel rest).map fun r => (.object r.1, r.2)
    | _ => none

/-- One element at least, up to the closing bracket. -/
def parseElements : Nat → List Token → Option (List Json × List Token)
  | 0, _ => none
  | fuel + 1, s => do
    let (value, rest) ← parseValue fuel s
    match rest with
    | .comma :: rest =>
      let (values, rest) ← parseElements fuel rest
      return (value :: values, rest)
    | .rightBracket :: rest => return ([value], rest)
    | _ => none

/-- One member at least, up to the closing brace. -/
def parseMembers : Nat → List Token → Option (List (Option String × Json) × List Token)
  | 0, _ => none
  | fuel + 1, s => do
    match s with
    | .string name :: .colon :: rest =>
      let (value, rest) ← parseValue fuel rest
      match rest with
      | .comma :: rest =>
        let (members, rest) ← parseMembers fuel rest
        return ((name, value) :: members, rest)
      | .rightBrace :: rest => return ([(name, value)], rest)
      | _ => none
    | _ => none

end

/-- The value the words write.  A value of `n` words is never nested deeper than `n`, and each level
takes two steps. -/
def ofTokens? (tokens : List Token) : Option Json :=
  match parseValue (2 * tokens.length + 1) tokens with
  | some (value, []) => some value
  | _ => none

/-- The value a text writes. -/
def read? (text : String) : Option Json := do
  ofTokens? (← Token.scan text.toList)

/-! ## Writing -/

/-- A character as it is written inside a string. -/
def escape (c : Char) : List Char :=
  if c = '"' then ['\\', '"']
  else if c = '\\' then ['\\', '\\']
  else if c = '\x08' then ['\\', 'b']
  else if c = '\x0c' then ['\\', 'f']
  else if c = '\n' then ['\\', 'n']
  else if c = '\r' then ['\\', 'r']
  else if c = '\t' then ['\\', 't']
  else if c.toNat < 0x20 then '\\' :: 'u' :: Hex.fixed 4 c.toNat
  else [c]

/-- A string as it is written.  A string that spells no text is written as a surrogate on its own. -/
def writeString : Option String → List Char
  | some s => '"' :: s.toList.flatMap escape ++ ['"']
  | none => "\"\\ud800\"".toList

/-- An integer as it is written. -/
def writeInteger (n : Int) : List Char := (toString n).toList

mutual

/-- A value as it is written, without blanks. -/
def write : Json → List Char
  | .null => "null".toList
  | .bool true => "true".toList
  | .bool false => "false".toList
  | .integer n => writeInteger n
  | .real spelling => spelling
  | .string s => writeString s
  | .array elements => '[' :: writeElements elements ++ [']']
  | .object members => '{' :: writeMembers members ++ ['}']

/-- Elements as they are written, with commas between them. -/
def writeElements : List Json → List Char
  | [] => []
  | [value] => write value
  | value :: rest => write value ++ ',' :: writeElements rest

/-- Members as they are written, with commas between them. -/
def writeMembers : List (Option String × Json) → List Char
  | [] => []
  | [(name, value)] => writeString name ++ ':' :: write value
  | (name, value) :: rest => writeString name ++ ':' :: write value ++ ',' :: writeMembers rest

end

/-- The compact text of a value. -/
def compact (value : Json) : String := String.ofList value.write

end Json

end HandleBridge
