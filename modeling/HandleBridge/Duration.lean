/-!
# Duration — spans of time in nanoseconds

Instants and spans are counted in nanoseconds.  The native library takes a span as a word of 64 bits,
so a longer one is given as the longest: `saturate`.
-/

namespace HandleBridge.Duration

/-- The longest span the native library can be given. -/
def longestNative : Nat := UInt64.size - 1

/-- A span as the native library is given it. -/
def saturate (span : Nat) : Nat := min span longestNative

/-- The longest span that has whole seconds in 64 bits. -/
def longest : Nat := (UInt64.size - 1) * 1000000000 + 999999999

/-- So many seconds and nanoseconds, unless the whole seconds take more than 64 bits. -/
def ofParts? (seconds nanos : Nat) : Option Nat :=
  let span := seconds * 1000000000 + nanos
  if span ≤ longest then some span else none

/-- What is said of seconds and nanoseconds that are too long together. -/
def tooLong : String := "overflow in Duration::new"

/-- Whole microseconds, in a word of 64 bits. -/
def micros (span : Nat) : UInt64 := UInt64.ofNat (span / 1000)

/-- Whole milliseconds, in a word of 64 bits. -/
def millis (span : Nat) : UInt64 := UInt64.ofNat (span / 1000000)

/-- Native calls and teardowns are slow when they take longer than this. -/
def slow : Nat := 10000000

end HandleBridge.Duration
