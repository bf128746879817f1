import HandleBridge.Json.Value
import HandleBridge.Proofs.Hex
import Mathlib.Data.List.Basic

/-!
# Proofs/Scanning — the words of a text that was written

`Json.words` are the words that a value is written with, and scanning what was written finds them
(`Json.Plain.scans`).  Every lemma has an arbitrary rest behind what it scans.  Only an integer has
to know something about that rest: its digits must end there.
-/

namespace HandleBridge

namespace Json

/-! ## Strings -/

section Pieces

variable {c e : Char} {rest : List Char}

theorem scanPieces_plain (hquote : c ≠ '"') (hback : c ≠ '\\') (hcontrol : ¬ c.toNat < 0x20) :
    scanPieces (c :: rest) = (scanPieces rest).map fun p => (.char c :: p.1, p.2) := by
  rw [scanPieces]
  · rw [if_neg (by simp [hback, hcontrol])]
    cases scanPieces rest <;> rfl
  · exact hquote
  · exact fun _ _ _ _ _ h => absurd h hback
  · exact fun _ _ h => absurd h hback

theorem scanPieces_escaped (h : unescape? e = some c) :
    scanPieces ('\\' :: e :: rest) = (scanPieces rest).map fun p => (.char c :: p.1, p.2) := by
  rw [scanPieces, h]
  · cases scanPieces rest <;> rfl
  · rintro _ _ _ _ _ rfl
    cases h

theorem scanPieces_hex {a b c d : Char} {n : Nat} (h : Hex.value? [a, b, c, d] = some n) :
    scanPieces ('\\' :: 'u' :: a :: b :: c :: d :: rest) =
      (scanPieces rest).map fun p => (.unit n :: p.1, p.2) := by
  rw [scanPieces, h]
  cases scanPieces rest <;> rfl

theorem scanPieces_unit (h : c.toNat < 0x20) :
    scanPieces ('\\' :: 'u' :: Hex.fixed 4 c.toNat ++ rest) =
      (scanPieces rest).map fun p => (.unit c.toNat :: p.1, p.2) :=
  scanPieces_hex (Hex.value?_fixed (show c.toNat < 16 ^ 4 from Nat.lt_of_lt_of_le h (by decide)))

/-- A unit that is no surrogate is a character by itself. -/
theorem join_unit {n : Nat} (h : n < 0x20) (pieces : List Piece) :
    join (.unit n :: pieces) = (Char.ofNat n :: ·) <$> join pieces := by
  have hhigh : isHighSurrogate n = false := by simp [isHighSurrogate]; omega
  have hlow : isLowSurrogate n = false := by simp [isLowSurrogate]; omega
  rcases pieces with _ | ⟨_ | _, _⟩ <;> simp [join, hhigh, hlow]

end Pieces

/-- A character is written as one piece, which spells it. -/
theorem scanPieces_escape (c : Char) : ∃ piece, (∀ rest, scanPieces (escape c ++ rest) =
      (scanPieces rest).map fun p => (piece :: p.1, p.2)) ∧
    ∀ pieces, join (piece :: pieces) = (c :: ·) <$> join pieces := by
  have hescaped {e c : Char} (h : unescape? e = some c) : ∃ piece,
      (∀ rest, scanPieces (['\\', e] ++ rest) =
        (scanPieces rest).map fun p => (piece :: p.1, p.2)) ∧
      ∀ pieces, join (piece :: pieces) = (c :: ·) <$> join pieces :=
    ⟨.char c, fun _ => scanPieces_escaped h, fun _ => by rw [join]⟩
  rw [escape]
  split_ifs with hquote hback h h h h h hcontrol
  · subst hquote
    exact hescaped rfl
  · subst hback
    exact hescaped rfl
  · subst h
    exact hescaped rfl
  · subst h
    exact hescaped rfl
  · subst h
    exact hescaped rfl
  · subst h
    exact hescaped rfl
  · subst h
    exact hescaped rfl
  · refine ⟨.unit c.toNat, fun _ => scanPieces_unit hcontrol, fun pieces => ?_⟩
    rw [join_unit hcontrol, Char.ofNat_toNat]
  · exact ⟨.char c, fun _ => scanPieces_plain hquote hback hcontrol, fun _ => by rw [join]⟩

/-- **A text that was written as a string is read as that text.** -/
theorem scanPieces_write (s rest : List Char) :
    ∃ pieces, scanPieces (s.flatMap escape ++ '"' :: rest) = some (pieces, rest) ∧
      join pieces = some s := by
  induction s with
  | nil => exact ⟨[], by rw [List.flatMap_nil, List.nil_append, scanPieces], rfl⟩
  | cons c s ih =>
    obtain ⟨pieces, hscan, hjoin⟩ := ih
    obtain ⟨piece, hpiece, hspells⟩ := scanPieces_escape c
    refine ⟨piece :: pieces, ?_, ?_⟩
    · rw [List.flatMap_cons, List.append_assoc, hpiece, hscan]
      rfl
    · rw [hspells, hjoin]
      rfl

theorem writeString_none : writeString none = ['"', '\\', 'u', 'd', '8', '0', '0', '"'] := by
  have hliteral : "\"\\ud800\"".toList = ['"', '\\', 'u', 'd', '8', '0', '0', '"'] := by decide
  exact hliteral

theorem scanString_none (rest : List Char) :
    scanString ('\\' :: 'u' :: 'd' :: '8' :: '0' :: '0' :: '"' :: rest) =
      some (.string none, rest) := by
  have hvalue : Hex.value? ['d', '8', '0', '0'] = some 0xD800 := rfl
  rw [scanString, scanPieces, hvalue, scanPieces]
  rfl

theorem scanToken_writeString (text : Option String) (rest : List Char) :
    scanToken (writeString text ++ rest) = some (.string text, rest) := by
  cases text with
  | none =>
    rw [writeString_none]
    exact scanString_none rest
  | some s =>
    obtain ⟨pieces, hscan, hjoin⟩ := scanPieces_write s.toList rest
    change scanToken ('"' :: s.toList.flatMap escape ++ ['"'] ++ rest) = _
    rw [List.append_assoc, List.cons_append, List.singleton_append, scanToken, scanString, hscan]
    simp [hjoin]

theorem writeString_cons (text : Option String) : ∃ tail, writeString text = '"' :: tail := by
  cases text with
  | none => exact ⟨_, writeString_none⟩
  | some s => exact ⟨_, rfl⟩

/-! ## Integers -/

/-- Are these the digits of a number, but for what may come before and after them? -/
def AllDigits (s : List Char) : Prop := ∀ c ∈ s, c.isDigit = true

/-- Does no digit follow? -/
def NoDigit (rest : List Char) : Prop := ∀ c ∈ rest.head?, c.isDigit = false

/-- A number ends where neither a digit nor what may come after digits follows. -/
def Ends (rest : List Char) : Prop :=
  ∀ c ∈ rest.head?, c.isDigit = false ∧ c ≠ '.' ∧ c ≠ 'e' ∧ c ≠ 'E'

theorem ends_nil : Ends [] := fun _ h => absurd h (Option.not_mem_none _)

theorem ends_cons {c : Char} (h : c = ',' ∨ c = ']' ∨ c = '}') (rest : List Char) :
    Ends (c :: rest) := by
  rintro c' ⟨⟩
  rcases h with rfl | rfl | rfl <;> decide

section Numbers

variable {digits rest : List Char}

theorem Ends.noDigit (h : Ends rest) : NoDigit rest := fun c hc => (h c hc).1

theorem AllDigits.takeWhile (h : AllDigits digits) (hrest : NoDigit rest) :
    (digits ++ rest).takeWhile Char.isDigit = digits := by
  rw [List.takeWhile_append_of_pos h]
  rcases rest with _ | ⟨c, rest⟩
  · exact List.append_nil digits
  · rw [List.takeWhile_cons_of_neg (Bool.eq_false_iff.1 (hrest c rfl)), List.append_nil]

theorem AllDigits.dropWhile (h : AllDigits digits) (hrest : NoDigit rest) :
    (digits ++ rest).dropWhile Char.isDigit = rest := by
  rw [List.dropWhile_append_of_pos h]
  rcases rest with _ | ⟨c, rest⟩
  · rfl
  · exact List.dropWhile_cons_of_neg (Bool.eq_false_iff.1 (hrest c rfl))

theorem Ends.scanFraction (h : Ends rest) : scanFraction rest = some ([], rest) := by
  rcases rest with _ | ⟨c, rest⟩
  · rfl
  · rw [Json.scanFraction]
    rintro rest ⟨⟩
    exact (h _ rfl).2.1 rfl

theorem Ends.scanExponent (h : Ends rest) : scanExponent rest = some ([], rest) := by
  rcases rest with _ | ⟨c, rest⟩
  · rfl
  · obtain ⟨-, -, hlower, hupper⟩ := h c rfl
    rw [Json.scanExponent, if_neg (by simp [hlower, hupper])]

end Numbers

theorem isDigit_toDigits {n : Nat} {c : Char} (h : c ∈ Nat.toDigits 10 n) : c.isDigit = true :=
  Nat.isDigit_of_mem_toDigits (by decide) (by decide) h

theorem ofDigits_toDigits (n : Nat) : ofDigits (Nat.toDigits 10 n) = n := by
  have hsame : ofDigits (Nat.toDigits 10 n) = Nat.ofDigitChars 10 (Nat.toDigits 10 n) 0 := by
    rw [ofDigits, Nat.ofDigitChars]
    exact congrArg (List.foldl · 0 _) (funext₂ fun n c => by rw [Nat.mul_comm])
  rw [hsame, Nat.ofDigitChars_ten_toDigits]

/-- No number but zero is written with a zero in front. -/
theorem head?_toDigits {n : Nat} (h : 0 < n) : (Nat.toDigits 10 n).head? ≠ some '0' := by
  induction n using Nat.strongRecOn with
  | ind n ih =>
    rcases Nat.lt_or_ge n 10 with hlt | hge
    · rw [Nat.toDigits_of_lt_base hlt]
      have hdigit : ∀ k < 10, 0 < k → Nat.digitChar k ≠ '0' := by decide
      exact fun heq => hdigit n hlt h (Option.some.inj heq)
    · rw [Nat.toDigits_of_base_le (by decide) hge,
        List.head?_append_of_ne_nil _ Nat.toDigits_ne_nil]
      exact ih (n / 10) (Nat.div_lt_self h (by decide)) (Nat.div_pos hge (by decide))

theorem isWholePart_of_head {digits : List Char} (hne : digits ≠ [])
    (hhead : digits.head? ≠ some '0') : isWholePart digits = true := by
  rcases digits with _ | ⟨c, digits⟩
  · exact absurd rfl hne
  · have hc : c ≠ '0' := fun heq => hhead (congrArg some heq)
    rw [isWholePart.eq_def]
    split <;> simp_all

theorem isWholePart_toDigits (n : Nat) : isWholePart (Nat.toDigits 10 n) = true := by
  rcases Nat.eq_zero_or_pos n with rfl | h
  · rfl
  · exact isWholePart_of_head Nat.toDigits_ne_nil (head?_toDigits h)

/-- **The digits of a number are read as the number**, with a sign unless it is zero. -/
theorem scanMagnitude_toDigits {rest : List Char} (h : Ends rest) (negative : Bool) (n : Nat)
    (hsign : negative = true → 0 < n) :
    scanMagnitude negative (Nat.toDigits 10 n ++ rest) =
      some (.integer (if negative then -n else n), rest) := by
  have hdigits : AllDigits (Nat.toDigits 10 n) := fun c => isDigit_toDigits
  rw [scanMagnitude, hdigits.takeWhile h.noDigit, hdigits.dropWhile h.noDigit,
    isWholePart_toDigits, h.scanFraction]
  simp only [Bool.not_true, Bool.false_eq_true, if_false, Option.bind_eq_bind, Option.bind_some,
    h.scanExponent, ofDigits_toDigits, List.isEmpty_nil, Bool.and_self, if_true]
  cases negative with
  | false => rfl
  | true =>
    obtain ⟨n, rfl⟩ := Nat.exists_eq_succ_of_ne_zero (Nat.ne_of_gt (hsign rfl))
    rfl

/-- A word that begins with a digit is a number. -/
theorem scanToken_digit {c : Char} (h : c.isDigit = true) (s : List Char) :
    scanToken (c :: s) = scanMagnitude false (c :: s) := by
  rw [scanToken.eq_def]
  split
  case h_11 =>
    rw [scanNumber]
    rintro rest heq
    cases heq
    exact absurd h (by decide)
  all_goals
    rename_i heq
    cases heq
    exact absurd h (by decide)

/-- A word that begins with a minus is a number. -/
theorem scanToken_minus (s : List Char) : scanToken ('-' :: s) = scanMagnitude true s := by
  rw [scanToken, scanNumber]
  all_goals simp

theorem not_isSpace_of_isDigit {c : Char} (h : c.isDigit = true) : isSpace c = false := by
  refine Bool.eq_false_iff.2 fun hspace => ?_
  simp only [isSpace, Bool.or_eq_true, decide_eq_true_eq] at hspace
  rcases hspace with ((rfl | rfl) | rfl) | rfl <;> exact absurd h (by decide)

/-- The digits of a number are some. -/
theorem toDigits_cons (n : Nat) :
    ∃ c tail, Nat.toDigits 10 n = c :: tail ∧ c.isDigit = true := by
  obtain ⟨c, tail, hdigits⟩ := List.exists_cons_of_ne_nil (Nat.toDigits_ne_nil (n := n) (b := 10))
  exact ⟨c, tail, hdigits, isDigit_toDigits (hdigits ▸ List.mem_cons_self)⟩

theorem writeInteger_ofNat (n : Nat) : writeInteger n = Nat.toDigits 10 n := String.toList_ofList

theorem writeInteger_negSucc (n : Nat) :
    writeInteger (.negSucc n) = '-' :: Nat.toDigits 10 n.succ := by
  change ("-" ++ String.ofList (Nat.toDigits 10 n.succ)).toList = _
  rw [String.toList_append]
  exact congrArg ('-' :: ·) String.toList_ofList

theorem writeInteger_cons (n : Int) :
    ∃ c tail, writeInteger n = c :: tail ∧ isSpace c = false := by
  cases n with
  | ofNat n =>
    obtain ⟨c, tail, hdigits, hc⟩ := toDigits_cons n
    exact ⟨c, tail, (writeInteger_ofNat n).trans hdigits, not_isSpace_of_isDigit hc⟩
  | negSucc n => exact ⟨_, _, writeInteger_negSucc n, rfl⟩

theorem scanToken_writeInteger {rest : List Char} (h : Ends rest) (n : Int) :
    scanToken (writeInteger n ++ rest) = some (.integer n, rest) := by
  cases n with
  | ofNat n =>
    obtain ⟨c, tail, hdigits, hc⟩ := toDigits_cons n
    have hscan := scanMagnitude_toDigits h false n nofun
    rw [hdigits, List.cons_append] at hscan
    rw [Int.ofNat_eq_natCast, writeInteger_ofNat, hdigits, List.cons_append, scanToken_digit hc,
      hscan]
    rfl
  | negSucc n =>
    rw [writeInteger_negSucc, List.cons_append, scanToken_minus,
      scanMagnitude_toDigits h true n.succ fun _ => Nat.succ_pos n]
    rfl

/-! ## Values -/

mutual

/-- The words that a value is written with. -/
def words : Json → List Token
  | .null => [.null]
  | .bool b => [.bool b]
  | .integer n => [.integer n]
  | .real spelling => [.real spelling]
  | .string s => [.string s]
  | .array elements => .leftBracket :: (elementWords elements ++ [.rightBracket])
  | .object members => .leftBrace :: (memberWords members ++ [.rightBrace])

/-- The words that elements are written with. -/
def elementWords : List Json → List Token
  | [] => []
  | [value] => words value
  | value :: rest => words value ++ .comma :: elementWords rest

/-- The words that members are written with. -/
def memberWords : List (Option String × Json) → List Token
  | [] => []
  | [(name, value)] => .string name :: .colon :: words value
  | (name, value) :: rest => .string name :: .colon :: (words value ++ .comma :: memberWords rest)

end

/-- Is no part of a value a number that is spelled out? -/
inductive Plain : Json → Prop where
  | null : Plain .null
  | bool (b : Bool) : Plain (.bool b)
  | integer (n : Int) : Plain (.integer n)
  | string (s : Option String) : Plain (.string s)
  | array {elements : List Json} (h : ∀ j ∈ elements, Plain j) : Plain (.array elements)
  | object {members : List (Option String × Json)} (h : ∀ m ∈ members, Plain m.2) :
      Plain (.object members)

/-- Are these the words of a text, given fuel for each of its characters? -/
def Scans (s : List Char) (words : List Token) : Prop :=
  ∀ fuel, s.length ≤ fuel → scanAll fuel s = some words

namespace Scans

variable {s rest : List Char} {words : List Token}

theorem nil : Scans [] [] := fun fuel _ => by cases fuel <;> rfl

/-- A word in front of a text that was scanned. -/
theorem word (c : Char) (tail : List Char) {token : Token}
    (hscan : scanToken (c :: tail ++ rest) = some (token, rest)) (hspace : isSpace c = false)
    (h : Scans rest words) : Scans (c :: tail ++ rest) (token :: words) := by
  intro fuel hfuel
  rw [List.length_append, List.length_cons] at hfuel
  obtain ⟨fuel, rfl⟩ := Nat.exists_eq_add_one_of_ne_zero (n := fuel) (by omega)
  rw [List.cons_append, scanAll, if_neg (Bool.eq_false_iff.1 hspace), ← List.cons_append, hscan]
  simp only [Option.bind_eq_bind, Option.bind_some]
  rw [h fuel (by omega)]
  rfl

/-- A word of one character. -/
theorem mark {c : Char} {token : Token} (hscan : scanToken (c :: rest) = some (token, rest))
    (hspace : isSpace c = false) (h : Scans rest words) : Scans (c :: rest) (token :: words) :=
  h.word c [] hscan hspace

theorem string (text : Option String) (h : Scans rest words) :
    Scans (writeString text ++ rest) (.string text :: words) := by
  obtain ⟨tail, hwritten⟩ := writeString_cons text
  have hscan := scanToken_writeString text rest
  rw [hwritten] at hscan ⊢
  exact h.word _ _ hscan rfl

theorem integer (n : Int) (hends : Ends rest) (h : Scans rest words) :
    Scans (writeInteger n ++ rest) (.integer n :: words) := by
  obtain ⟨c, tail, hwritten, hspace⟩ := writeInteger_cons n
  have hscan := scanToken_writeInteger hends n
  rw [hwritten] at hscan ⊢
  exact h.word _ _ hscan hspace

end Scans

/-- Is a value scanned as its words, whatever follows it? -/
def Scannable (j : Json) : Prop :=
  ∀ rest words, Ends rest → Scans rest words → Scans (write j ++ rest) (j.words ++ words)

theorem scans_writeElements {elements : List Json} (h : ∀ j ∈ elements, Scannable j)
    {rest : List Char} {words : List Token} (hscans : Scans rest words) :
    Scans (writeElements elements ++ ']' :: rest)
      (elementWords elements ++ .rightBracket :: words) := by
  have hclose : Scans (']' :: rest) (.rightBracket :: words) := hscans.mark rfl rfl
  induction elements with
  | nil => exact hclose
  | cons value elements ih =>
    have hvalue := h value List.mem_cons_self
    cases elements with
    | nil => exact hvalue _ _ (ends_cons (by simp) _) hclose
    | cons next elements =>
      have hrest := ih fun j hj => h j (List.mem_cons_of_mem _ hj)
      rw [writeElements, elementWords, List.append_assoc, List.append_assoc]
      · exact hvalue _ _ (ends_cons (by simp) _) (hrest.mark rfl rfl)
      all_goals simp

theorem scans_writeMembers {members : List (Option String × Json)}
    (h : ∀ m ∈ members, Scannable m.2) {rest : List Char} {words : List Token}
    (hscans : Scans rest words) :
    Scans (writeMembers members ++ '}' :: rest)
      (memberWords members ++ .rightBrace :: words) := by
  have hclose : Scans ('}' :: rest) (.rightBrace :: words) := hscans.mark rfl rfl
  induction members with
  | nil => exact hclose
  | cons member members ih =>
    have hvalue := h member List.mem_cons_self
    cases members with
    | nil =>
      rw [writeMembers, memberWords, List.append_assoc]
      exact .string _ (.mark rfl rfl (hvalue _ _ (ends_cons (by simp) _) hclose))
    | cons next members =>
      have hrest := ih fun m hm => h m (List.mem_cons_of_mem _ hm)
      rw [writeMembers, memberWords]
      simp only [List.append_assoc, List.cons_append]
      · exact .string _ (.mark rfl rfl (hvalue _ _ (ends_cons (by simp) _) (hrest.mark rfl rfl)))
      all_goals simp

/-- **What was written is scanned as the words it was written with.** -/
theorem Plain.scannable {j : Json} (h : j.Plain) : Scannable j := by
  induction h with
  | null => exact fun rest words _ hscans => hscans.word 'n' ['u', 'l', 'l'] rfl rfl
  | bool b =>
    cases b with
    | false =>
      exact fun rest words _ hscans => hscans.word 'f' ['a', 'l', 's', 'e'] rfl rfl
    | true =>
      exact fun rest words _ hscans => hscans.word 't' ['r', 'u', 'e'] rfl rfl
  | integer n => exact fun rest words hends hscans => .integer n hends hscans
  | string s => exact fun rest words _ hscans => .string s hscans
  | array h ih =>
    intro rest ws _ hscans
    simp only [write, words, List.cons_append, List.append_assoc, List.nil_append]
    exact (scans_writeElements ih hscans).mark rfl rfl
  | object h ih =>
    intro rest ws _ hscans
    simp only [write, words, List.cons_append, List.append_assoc, List.nil_append]
    exact (scans_writeMembers ih hscans).mark rfl rfl

/-- **The text of a value is split into the words it was written with.** -/
theorem Plain.scan_compact {j : Json} (h : j.Plain) :
    Token.scan j.compact.toList = some j.words := by
  have hscans := h.scannable [] [] ends_nil .nil
  rw [List.append_nil, List.append_nil] at hscans
  rw [compact, String.toList_ofList]
  exact hscans _ (Nat.le_refl _)

end Json

end HandleBridge
