import HandleBridge.Text.Extending
import HandleBridge.Text.Hex
import HandleBridge.Text.Printable

/-!
# Text/Quoted — a text shown between double quotes

A shown text is unambiguous to the eye: a quote and a backslash are escaped, the four common control
characters have short names, and a character that would not show on its own, or would merge with the
one before it, is written as its code point in braces.
-/

namespace HandleBridge.Quoted

/-- A character written as its code point in braces. -/
def codePoint (c : Char) : List Char :=
  "\\u\x7b".toList ++ Hex.shortest c.toNat ++ "\x7d".toList

/-- A character as it is shown between quotes. -/
def escape (c : Char) : List Char :=
  if c = '\x00' then ['\\', '0']
  else if c = '\t' then ['\\', 't']
  else if c = '\r' then ['\\', 'r']
  else if c = '\n' then ['\\', 'n']
  else if c = '\\' || c = '"' then ['\\', c]
  else if Extending.isExtending c then codePoint c
  else if Printable.isPrintable c then [c]
  else codePoint c

/-- A text as it is shown, quotes included. -/
def quote (text : String) : String :=
  String.ofList ('"' :: text.toList.flatMap escape ++ ['"'])

/-- A text that may be missing, as it is shown. -/
def quoteOption : Option String → String
  | none => "None"
  | some text => "Some(" ++ quote text ++ ")"

end HandleBridge.Quoted
