/-!
# Text/Hex — numbers in base sixteen, with lower-case digits

`fixed` writes a given number of digits, leading zeros included; `shortest` writes as many as the
number needs; `value?` reads digits of either case.
-/

namespace HandleBridge.Hex

/-- The digit for a value below sixteen. -/
def digit (n : Nat) : Char := "0123456789abcdef".toList.getD n '0'

/-- The lowest `width` digits, most significant first. -/
def fixed : Nat → Nat → List Char
  | 0, _ => []
  | width + 1, n => fixed width (n / 16) ++ [digit (n % 16)]

/-- As many digits as the number needs, at least one. -/
def shortest (n : Nat) : List Char :=
  if _h : n < 16 then [digit n] else shortest (n / 16) ++ [digit (n % 16)]

/-- The value of a digit, of either case. -/
def digit? (c : Char) : Option Nat :=
  if '0' ≤ c ∧ c ≤ '9' then some (c.toNat - '0'.toNat)
  else if 'a' ≤ c ∧ c ≤ 'f' then some (c.toNat - 'a'.toNat + 10)
  else if 'A' ≤ c ∧ c ≤ 'F' then some (c.toNat - 'A'.toNat + 10)
  else none

/-- The value of a sequence of digits. -/
def value? (digits : List Char) : Option Nat :=
  digits.foldl (fun acc c => do return (← acc) * 16 + (← digit? c)) (some 0)

/-- The digits of a byte. -/
def byte (b : UInt8) : List Char := fixed 2 b.toNat

end HandleBridge.Hex
