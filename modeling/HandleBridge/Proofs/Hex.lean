import HandleBridge.Text.Hex
import Mathlib.Algebra.Group.Nat.Defs

/-!
# Proofs/Hex — digits in base sixteen read back

`fixed` writes digits of a known number and kind, and they read back as the number if it has room in
them (`value?_fixed`).
-/

namespace HandleBridge.Hex

variable {width n : Nat} {c : Char}

theorem digit?_digit (h : n < 16) : digit? (digit n) = some n := by
  rcases n with _ | _ | _ | _ | _ | _ | _ | _ | _ | _ | _ | _ | _ | _ | _ | _ | n
  all_goals first | rfl | omega

theorem length_fixed (width n : Nat) : (fixed width n).length = width := by
  induction width generalizing n with
  | zero => rfl
  | succ width ih => simp [fixed, ih]

theorem mem_fixed (h : c ∈ fixed width n) : ∃ k < 16, c = digit k := by
  induction width generalizing n with
  | zero => exact absurd h List.not_mem_nil
  | succ width ih =>
    rcases List.mem_append.1 h with h | h
    · exact ih h
    · exact ⟨n % 16, Nat.mod_lt _ (by decide), List.mem_singleton.1 h⟩

/-- The digits are written in lower case. -/
theorem lower_of_mem_fixed (h : c ∈ fixed width n) : '0' ≤ c ∧ c ≤ '9' ∨ 'a' ≤ c ∧ c ≤ 'f' := by
  obtain ⟨k, hk, rfl⟩ := mem_fixed h
  exact (by decide :
    ∀ k < 16, '0' ≤ digit k ∧ digit k ≤ '9' ∨ 'a' ≤ digit k ∧ digit k ≤ 'f') k hk

theorem zero_not_mem_fixed (width n : Nat) : '\x00' ∉ fixed width n := by
  intro h
  obtain ⟨k, hk, heq⟩ := mem_fixed h
  exact (by decide : ∀ k < 16, '\x00' ≠ digit k) k hk heq

/-- The value of digits and one more. -/
theorem value?_append (digits : List Char) (c : Char) :
    value? (digits ++ [c]) = do return (← value? digits) * 16 + (← digit? c) := by
  rw [value?, List.foldl_append]
  rfl

/-- **As many digits as a number has room for write the number.** -/
theorem value?_fixed (h : n < 16 ^ width) : value? (fixed width n) = some n := by
  induction width generalizing n with
  | zero =>
    obtain rfl : n = 0 := Nat.lt_one_iff.1 h
    rfl
  | succ width ih =>
    have hrest : n / 16 < 16 ^ width := Nat.div_lt_of_lt_mul (by rwa [Nat.pow_succ'] at h)
    rw [fixed, value?_append, ih hrest, digit?_digit (Nat.mod_lt _ (by decide))]
    exact congrArg some (by omega)

end HandleBridge.Hex
