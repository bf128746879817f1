/-!
# Text/Utf8 — bytes read as text, one maximal ill-formed run at a time

`decode` reads a byte sequence into slots: a character where the bytes spell one, and an empty slot
for each maximal run of bytes that begins a character and is cut short, or that begins none.  The
reader is a machine that is fed one byte at a time and remembers how many continuation bytes it is
still owed, so `decode` is a plain recursion on the bytes.

Two readings of the slots follow.  `decode?` is strict: it refuses the bytes as soon as one slot is
empty.  `decodeLossy` fills every empty slot with the replacement character.
-/

namespace HandleBridge.Utf8

/-- The bytes that spell a text. -/
def encode (text : List Char) : List UInt8 := text.flatMap String.utf8EncodeChar

/-- A character begun and not finished: the bounds of its next byte, how many bytes are owed after
that one, and the bits read so far. -/
structure Pending where
  low : Nat
  high : Nat
  owed : Nat
  bits : Nat
  deriving DecidableEq, Repr

/-- What a lead byte begins.  The bounds of the second byte rule out overlong spellings, surrogates
and code points past the last one. -/
def Pending.ofLead? (b : Nat) : Option Pending :=
  if 0xC2 ≤ b ∧ b ≤ 0xDF then some ⟨0x80, 0xBF, 0, b - 0xC0⟩
  else if b = 0xE0 then some ⟨0xA0, 0xBF, 1, 0⟩
  else if b = 0xED then some ⟨0x80, 0x9F, 1, 0xD⟩
  else if 0xE1 ≤ b ∧ b ≤ 0xEF then some ⟨0x80, 0xBF, 1, b - 0xE0⟩
  else if b = 0xF0 then some ⟨0x90, 0xBF, 2, 0⟩
  else if 0xF1 ≤ b ∧ b ≤ 0xF3 then some ⟨0x80, 0xBF, 2, b - 0xF0⟩
  else if b = 0xF4 then some ⟨0x80, 0x8F, 2, 4⟩
  else none

/-- The slots a byte completes when no character is pending, and what it leaves pending. -/
def start (b : Nat) : List (Option Char) × Option Pending :=
  if b < 0x80 then ([some (Char.ofNat b)], none)
  else match Pending.ofLead? b with
    | some p => ([], some p)
    | none => ([none], none)

/-- The slots a byte completes, and what it leaves pending.  A byte that cannot continue the pending
character ends it as an empty slot and is read afresh. -/
def feed : Option Pending → Nat → List (Option Char) × Option Pending
  | none, b => start b
  | some p, b =>
    if p.low ≤ b ∧ b ≤ p.high then
      let bits := p.bits * 64 + (b - 0x80)
      match p.owed with
      | 0 => ([some (Char.ofNat bits)], none)
      | owed + 1 => ([], some ⟨0x80, 0xBF, owed, bits⟩)
    else
      let fresh := start b
      (none :: fresh.1, fresh.2)

/-- The slots of the remaining bytes.  Bytes that end in the middle of a character leave one empty
slot. -/
def decodeFrom : Option Pending → List UInt8 → List (Option Char)
  | none, [] => []
  | some _, [] => [none]
  | pending, b :: bytes =>
    let fed := feed pending b.toNat
    fed.1 ++ decodeFrom fed.2 bytes

/-- The slots of a byte sequence. -/
def decode (bytes : List UInt8) : List (Option Char) := decodeFrom none bytes

/-- The text the bytes spell, if they spell one throughout. -/
def decode? (bytes : List UInt8) : Option (List Char) := (decode bytes).mapM id

/-- The character that stands for bytes that spell none. -/
def replacement : Char := '\uFFFD'

/-- The text the bytes spell, with the replacement character for each ill-formed run. -/
def decodeLossy (bytes : List UInt8) : List Char := (decode bytes).map (·.getD replacement)

end HandleBridge.Utf8
