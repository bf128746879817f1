/-!
# Text/Blank — the characters that separate words

`isBlankChar` is the property White_Space of a character.  A text is blank when it has no other
character; the empty text is blank.  U+FEFF and U+200B have no width and are not blank.
-/

namespace HandleBridge.Blank

/-- Is the character white space? -/
def isBlankChar (c : Char) : Bool :=
  let n := c.toNat
  (0x9 ≤ n && n ≤ 0xD) || n == 0x20 || n == 0x85 || n == 0xA0 || n == 0x1680 ||
    (0x2000 ≤ n && n ≤ 0x200A) || n == 0x2028 || n == 0x2029 || n == 0x202F || n == 0x205F ||
    n == 0x3000

/-- Is every character white space? -/
def isBlank (text : String) : Bool := text.toList.all isBlankChar

end HandleBridge.Blank
