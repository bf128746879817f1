import HandleBridge.Text.Hex

/-!
# Json/Token — the words of a JSON text

`Token.scan` splits a text into words, dropping the blanks between them.  A number word keeps its
value when it is a plain integer; any other number, and a negated zero, keeps its spelling only.  A
string word keeps its text when its escapes spell characters, and nothing when they leave a surrogate
on its own: such a string is a word all the same, and it is for the reader to refuse it.
-/

namespace HandleBridge.Json

/-- A word of a JSON text. -/
inductive Token where
  | leftBrace
  | rightBrace
  | leftBracket
  | rightBracket
  | comma
  | colon
  | null
  | bool (value : Bool)
  | integer (value : Int)
  | real (spelling : List Char)
  | string (text : Option String)
  deriving DecidableEq, Repr

/-! ## Strings

A string is scanned into pieces, a character or a sixteen-bit unit written in hexadecimal, and the
pieces are joined afterwards: a high surrogate and the low surrogate right after it make one
character. -/

/-- A character of a string as it is written, or a unit given by its number. -/
inductive Piece where
  | char (c : Char)
  | unit (n : Nat)
  deriving DecidableEq, Repr

/-- The character a one-letter escape stands for. -/
def unescape? : Char → Option Char
  | '"' => some '"'
  | '\\' => some '\\'
  | '/' => some '/'
  | 'b' => some '\x08'
  | 'f' => some '\x0c'
  | 'n' => some '\n'
  | 'r' => some '\r'
  | 't' => some '\t'
  | _ => none

/-- The pieces up to the closing quote, and what follows it. -/
def scanPieces : List Char → Option (List Piece × List Char)
  | '"' :: rest => some ([], rest)
  | '\\' :: 'u' :: a :: b :: c :: d :: rest => do
    let unit ← Hex.value? [a, b, c, d]
    let (pieces, rest) ← scanPieces rest
    return (.unit unit :: pieces, rest)
  | '\\' :: c :: rest => do
    let char ← unescape? c
    let (pieces, rest) ← scanPieces rest
    return (.char char :: pieces, rest)
  | c :: rest => do
    if c.toNat < 0x20 || c = '\\' then none
    let (pieces, rest) ← scanPieces rest
    return (.char c :: pieces, rest)
  | [] => none

/-- Is the unit the first half of a pair? -/
def isHighSurrogate (n : Nat) : Bool := 0xD800 ≤ n && n < 0xDC00

/-- Is the unit the second half of a pair? -/
def isLowSurrogate (n : Nat) : Bool := 0xDC00 ≤ n && n < 0xE000

/-- The characters the pieces spell, if no surrogate stands on its own. -/
def join : List Piece → Option (List Char)
  | [] => some []
  | .char c :: rest => (c :: ·) <$> join rest
  | .unit high :: .unit low :: rest =>
    if isHighSurrogate high then
      if isLowSurrogate low then
        (Char.ofNat (0x10000 + (high - 0xD800) * 0x400 + (low - 0xDC00)) :: ·) <$> join rest
      else none
    else if isLowSurrogate high then none
    else (Char.ofNat high :: ·) <$> join (.unit low :: rest)
  | .unit n :: rest =>
    if isHighSurrogate n || isLowSurrogate n then none else (Char.ofNat n :: ·) <$> join rest

/-- The string word whose opening quote has been read. -/
def scanString (s : List Char) : Option (Token × List Char) := do
  let (pieces, rest) ← scanPieces s
  return (.string (String.ofList <$> join pieces), rest)

/-! ## Numbers -/

/-- The number a sequence of decimal digits writes. -/
def ofDigits (digits : List Char) : Nat :=
  digits.foldl (fun n c => n * 10 + (c.toNat - '0'.toNat)) 0

/-- Digits are a whole part when there is one at least and no leading zero. -/
def isWholePart : List Char → Bool
  | [] => false
  | ['0'] => true
  | '0' :: _ => false
  | _ => true

/-- The fraction at the start, spelled out; empty when there is none. -/
def scanFraction : List Char → Option (List Char × List Char)
  | '.' :: rest =>
    let digits := rest.takeWhile Char.isDigit
    if digits.isEmpty then none else some ('.' :: digits, rest.dropWhile Char.isDigit)
  | s => some ([], s)

/-- The sign an exponent may have. -/
def scanSign : List Char → List Char × List Char
  | '+' :: rest => (['+'], rest)
  | '-' :: rest => (['-'], rest)
  | s => ([], s)

/-- The exponent at the start, spelled out; empty when there is none. -/
def scanExponent : List Char → Option (List Char × List Char)
  | [] => some ([], [])
  | e :: rest =>
    if e = 'e' || e = 'E' then
      let (sign, rest) := scanSign rest
      let digits := rest.takeWhile Char.isDigit
      if digits.isEmpty then none else some (e :: sign ++ digits, rest.dropWhile Char.isDigit)
    else some ([], e :: rest)

/-- The number word at the start of a text without sign. -/
def scanMagnitude (negative : Bool) (s : List Char) : Option (Token × List Char) := do
  let digits := s.takeWhile Char.isDigit
  if !isWholePart digits then none
  let (fraction, rest) ← scanFraction (s.dropWhile Char.isDigit)
  let (exponent, rest) ← scanExponent rest
  let sign := if negative then ['-'] else []
  if fraction.isEmpty && exponent.isEmpty then
    match negative, ofDigits digits with
    | false, n => return (.integer n, rest)
    | true, 0 => return (.real (sign ++ digits), rest)
    | true, n => return (.integer (-n), rest)
  else return (.real (sign ++ digits ++ fraction ++ exponent), rest)

/-- The number word at the start of a text. -/
def scanNumber : List Char → Option (Token × List Char)
  | '-' :: rest => scanMagnitude true rest
  | s => scanMagnitude false s

/-! ## Words -/

/-- The blanks that may stand between words. -/
def isSpace (c : Char) : Bool := c = ' ' || c = '\t' || c = '\n' || c = '\r'

/-- The word at the start of a text that starts with no blank. -/
def scanToken : List Char → Option (Token × List Char)
  | '{' :: rest => some (.leftBrace, rest)
  | '}' :: rest => some (.rightBrace, rest)
  | '[' :: rest => some (.leftBracket, rest)
  | ']' :: rest => some (.rightBracket, rest)
  | ',' :: rest => some (.comma, rest)
  | ':' :: rest => some (.colon, rest)
  | '"' :: rest => scanString rest
  | 'n' :: 'u' :: 'l' :: 'l' :: rest => some (.null, rest)
  | 't' :: 'r' :: 'u' :: 'e' :: rest => some (.bool true, rest)
  | 'f' :: 'a' :: 'l' :: 's' :: 'e' :: rest => some (.bool false, rest)
  | s => scanNumber s

/-- The words of a text, given at least as much fuel as it has characters. -/
def scanAll : Nat → List Char → Option (List Token)
  | _, [] => some []
  | 0, _ :: _ => none
  | fuel + 1, c :: s =>
    if isSpace c then scanAll fuel s
    else do
      let (token, rest) ← scanToken (c :: s)
      return token :: (← scanAll fuel rest)

/-- The words of a text; none when some part of it is no word. -/
def Token.scan (text : List Char) : Option (List Token) := scanAll text.length text

end HandleBridge.Json
