import HandleBridge.Text.Utf8

/-!
# Text/CString — strings that a zero byte ends

A native library hands out a string as the address of its first byte; the string reaches up to the
first zero byte.  `CString.read` copies it, and `CString.ofText` is the spelling of a text, zero byte
included.  A text with a zero character has no such spelling: `spellable` says which have, and
`blankZeros` replaces the zero characters by spaces.
-/

namespace HandleBridge.CString

/-- The text up to the first zero byte; ill-formed runs become replacement characters. -/
def read (bytes : List UInt8) : String :=
  String.ofList (Utf8.decodeLossy (bytes.takeWhile (· ≠ 0)))

/-- Does a text survive being spelled with a closing zero byte? -/
def spellable (text : String) : Bool := !text.toList.contains '\x00'

/-- The bytes of a text and the zero byte that ends them. -/
def ofText (text : String) : List UInt8 := Utf8.encode text.toList ++ [0]

/-- The text with a space for each zero character. -/
def blankZeros (text : String) : String :=
  String.ofList (text.toList.map fun c => if c = '\x00' then ' ' else c)

end HandleBridge.CString
